import CellPurse.Node.Rpc
import CellPurse.Proofs.Json.Shape

/-!
# CellPurse.Proofs.Node.Reply — replies that can be understood

What comes of a question is judged by the reply to it alone.

* `Answered D x`: `x` is a value of sort `D`, or a fault of the way to the node;
* `Rpc.Query`, `Rpc.Query.judge`: a question with the reading of its result, and what a reply to it comes to;
* `Rpc.Understood P reply`: nothing came, the status is none of success, or the body is an object with a refusal that
  is an object, or without a refusal and with a result of shape `P`;
* `Rpc.Query.answered_judge_iff`: a reply comes to a value or a fault of the way exactly when it is understood;
* `Rpc.Query.block`, `cell`, `send`, `tip`, `epoch`, `network`, `genesis`: the questions, each with the shape of its
  results.
-/

namespace CellPurse

open Outcome

/-- A value of some sort, or a fault of the way to the node. -/
def Answered {α : Type} (D : α → Prop) : Except NodeFault α → Prop
  | .ok a => D a
  | .error f => f.isTransport = true

section Answered

variable {α : Type} {D : α → Prop}

theorem answered_transport (text : String) : Answered D (.error (.transport text)) := rfl

theorem not_answered {f : NodeFault} (h : f.isTransport = false) : ¬ Answered D (.error f) :=
  fun h' => Bool.false_ne_true (h.symm.trans h')

theorem not_transport_document (f : DocumentFault) : (NodeFault.document f).isTransport = false := by
  cases f <;> rfl

/-- A reading of a document never fails on the way. -/
theorem answered_document_iff {x : Except DocumentFault α} :
    Answered D (x.mapError NodeFault.document) ↔ ∃ a, x = .ok a ∧ D a := by
  cases x with
  | ok a => exact ⟨fun h => ⟨a, rfl, h⟩, fun ⟨_, ha, h⟩ => Except.ok.inj ha ▸ h⟩
  | error f =>
    exact ⟨fun h => absurd h (not_answered (not_transport_document f)), fun ⟨_, h, _⟩ => nomatch h⟩

end Answered

namespace Rpc

/-! ## Replies -/

/-- A reply that can be understood, with a result of some shape if it has one. -/
inductive Understood (P : Json → Prop) : Reply → Prop where
  | timeout (text : String) : Understood P (.timeout text)
  | failure (text : String) : Understood P (.failure text)
  | status {status : Nat} (h : isSuccess status = false) (body : Bytes) : Understood P (.response status body)
  | refused {status : Nat} {body : Bytes} {fields : List (JsonText × Json)} {e : Json}
      (hbody : parseBody body = .ok (.obj fields)) (he : Json.lookup "error" fields = some e)
      (hrefusal : e.truthy = true) (hshape : e.IsObject) : Understood P (.response status body)
  | result {status : Nat} {body : Bytes} {fields : List (JsonText × Json)} (hbody : parseBody body = .ok (.obj fields))
      (hnone : ∀ e, Json.lookup "error" fields = some e → e.truthy = false)
      (hresult : P ((Json.lookup "result" fields).getD .null)) : Understood P (.response status body)

/-! ## Bodies -/

/-- A refusal can be told when it is an object. -/
theorem exists_refusal_iff {e : Json} : (∃ text, refusal e = .ok text) ↔ e.IsObject := by
  constructor
  · rintro ⟨text, h⟩
    obtain ⟨code, hcode, -⟩ := bind_eq_ok_iff.mp h
    exact (Json.optional_eq_ok_iff_field?.mp hcode).1
  · rintro ⟨fields, rfl⟩
    exact ⟨_, rfl⟩

theorem errorOf_obj (fields : List (JsonText × Json)) :
    errorOf (.obj fields) = .ok ((Json.lookup "error" fields).getD .null) := by
  cases h : Json.lookup "error" fields with
  | none =>
    simp only [errorOf, Json.has, h]
    rfl
  | some e =>
    simp only [errorOf, Json.has, Json.field, h]
    rfl

/-- A body that is no object is the wrong document. -/
theorem resultOf_of_not_isObject {v : Json} (h : ¬ v.IsObject) : ∃ f, resultOf v = .error (.document f) := by
  have hresult : v.optional "result" = .error .notObject := by
    cases v with
    | obj fields => exact absurd ⟨fields, rfl⟩ h
    | _ => rfl
  have hfield : v.field "error" = .error .wrongKind := by
    cases v with
    | obj fields => exact absurd ⟨fields, rfl⟩ h
    | _ => rfl
  unfold resultOf errorOf
  cases v.has "error" with
  | error f => exact ⟨f, rfl⟩
  | ok found =>
    cases found with
    | true => exact ⟨.wrongKind, by rw [hfield]; rfl⟩
    | false => exact ⟨.notObject, by rw [hresult]; rfl⟩

theorem resultOf_obj_of_refused {fields : List (JsonText × Json)} {e : Json} (he : Json.lookup "error" fields = some e)
    (htruthy : e.truthy = true) :
    resultOf (.obj fields) = (refusal e).mapError .document >>= fun text => .error (.transport text) := by
  unfold resultOf
  rw [errorOf_obj, he]
  show (if e.truthy = true then _ else _) = _
  rw [if_pos htruthy]
  rfl

theorem resultOf_obj_of_not_refused {fields : List (JsonText × Json)}
    (h : ∀ e, Json.lookup "error" fields = some e → e.truthy = false) :
    resultOf (.obj fields) = .ok ((Json.lookup "result" fields).getD .null) := by
  have hfalse : ((Json.lookup "error" fields).getD .null).truthy = false := by
    cases he : Json.lookup "error" fields with
    | none => rfl
    | some e => exact h e he
  unfold resultOf
  rw [errorOf_obj]
  show (if ((Json.lookup "error" fields).getD .null).truthy = true then _ else _) = _
  rw [hfalse, if_neg Bool.false_ne_true]
  rfl

/-! ## Questions -/

/-- A question: its method, its parameters, and how the result is read. -/
structure Query (α : Type) where
  method : String
  params : List Json
  read : Json → Except NodeFault α

namespace Query

variable {α : Type} {D : α → Prop} {P : Json → Prop} {q : Query α}

/-- What a reply comes to. -/
def judge (q : Query α) (reply : Reply) : Except NodeFault α := answer q.method reply >>= q.read

/-- What a body comes to. -/
theorem answered_resultOf_iff (hread : ∀ v, Answered D (q.read v) ↔ P v) {v : Json} :
    Answered D (resultOf v >>= q.read) ↔ ∃ fields, v = .obj fields ∧
      ((∃ e, Json.lookup "error" fields = some e ∧ e.truthy = true ∧ e.IsObject) ∨
        (∀ e, Json.lookup "error" fields = some e → e.truthy = false) ∧
          P ((Json.lookup "result" fields).getD .null)) := by
  by_cases hobject : v.IsObject
  · obtain ⟨fields, rfl⟩ := hobject
    by_cases hnone : ∀ e, Json.lookup "error" fields = some e → e.truthy = false
    · have hresult : Answered D (resultOf (.obj fields) >>= q.read) ↔ P ((Json.lookup "result" fields).getD .null) := by
        rw [resultOf_obj_of_not_refused hnone]
        exact hread _
      rw [hresult]
      constructor
      · exact fun h => ⟨fields, rfl, .inr ⟨hnone, h⟩⟩
      · rintro ⟨_, h, ⟨e, he, htruthy, -⟩ | ⟨-, hP⟩⟩
        · cases h
          rw [hnone e he] at htruthy
          cases htruthy
        · cases h
          exact hP
    · obtain ⟨e, he, htruthy⟩ : ∃ e, Json.lookup "error" fields = some e ∧ e.truthy = true := by
        by_contra hno
        exact hnone fun e he => Bool.eq_false_iff.mpr fun htruthy => hno ⟨e, he, htruthy⟩
      have hrefused : Answered D (resultOf (.obj fields) >>= q.read) ↔ e.IsObject := by
        rw [resultOf_obj_of_refused he htruthy, ← exists_refusal_iff]
        cases refusal e with
        | ok text => exact ⟨fun _ => ⟨text, rfl⟩, fun _ => answered_transport _⟩
        | error f => exact ⟨fun h => absurd h (not_answered (not_transport_document f)), nofun⟩
      rw [hrefused]
      constructor
      · exact fun h => ⟨fields, rfl, .inl ⟨e, he, htruthy, h⟩⟩
      · rintro ⟨_, h, ⟨e', he', -, hshape⟩ | ⟨hno, -⟩⟩
        · cases h
          rw [he] at he'
          cases he'
          exact hshape
        · cases h
          rw [hno e he] at htruthy
          cases htruthy
  · obtain ⟨f, hf⟩ := resultOf_of_not_isObject hobject
    rw [hf]
    exact ⟨fun h => absurd h (not_answered (not_transport_document f)),
      fun ⟨fields, hv, _⟩ => absurd ⟨fields, hv⟩ hobject⟩

/-- A body that is no document is no fault of the way. -/
theorem not_transport_of_parseBody {body : Bytes} {f : NodeFault} (h : parseBody body = .error f) :
    f.isTransport = false := by
  rcases bind_eq_error_iff.mp h with h | ⟨cs, -, h⟩
  · obtain ⟨g, -, rfl⟩ := mapError_eq_error_iff.mp h
    rfl
  · obtain ⟨g, -, rfl⟩ := mapError_eq_error_iff.mp h
    cases g <;> rfl

/-- **A reply comes to a value or to a fault of the way exactly when it is understood.** -/
theorem answered_judge_iff (hread : ∀ v, Answered D (q.read v) ↔ P v) {reply : Reply} :
    Answered D (q.judge reply) ↔ Understood P reply := by
  cases reply with
  | timeout text => exact ⟨fun _ => .timeout text, fun _ => answered_transport _⟩
  | failure text => exact ⟨fun _ => .failure text, fun _ => answered_transport _⟩
  | response status body =>
    by_cases hstatus : isSuccess status = true
    · have hjudge : q.judge (.response status body) = parseBody body >>= fun v => resultOf v >>= q.read := by
        unfold judge answer
        dsimp only
        rw [if_pos hstatus, bind_assoc]
      rw [hjudge]
      cases hbody : parseBody body with
      | error f =>
        refine ⟨fun h => absurd h (not_answered (not_transport_of_parseBody hbody)), fun h => ?_⟩
        cases h with
        | status h => exact absurd hstatus (Bool.eq_false_iff.mp h)
        | refused h | result h =>
          rw [hbody] at h
          cases h
      | ok v =>
        refine (answered_resultOf_iff hread).trans ⟨?_, fun h => ?_⟩
        · rintro ⟨fields, rfl, ⟨e, he, htruthy, hshape⟩ | ⟨hnone, hP⟩⟩
          · exact .refused hbody he htruthy hshape
          · exact .result hbody hnone hP
        · cases h with
          | status h => exact absurd hstatus (Bool.eq_false_iff.mp h)
          | refused h he htruthy hshape =>
            rw [hbody] at h
            cases h
            exact ⟨_, rfl, .inl ⟨_, he, htruthy, hshape⟩⟩
          | result h hnone hP =>
            rw [hbody] at h
            cases h
            exact ⟨_, rfl, .inr ⟨hnone, hP⟩⟩
    · have hjudge : q.judge (.response status body) =
          .error (.transport ("RPC call failed: " ++ q.method ++ ": HTTP status " ++ toString status)) := by
        unfold judge answer
        dsimp only
        rw [if_neg hstatus]
        rfl
      rw [hjudge]
      exact ⟨fun _ => .status (Bool.not_eq_true _ ▸ hstatus) body, fun _ => answered_transport _⟩

/-! ## The questions to a node -/

/-- What a question comes to by a reading of its result as a document. -/
theorem answered_reading_iff {read : Json → Except DocumentFault α} (hread : ∀ v, (∃ a, read v = .ok a) ↔ P v)
    (v : Json) :
    Answered (fun _ => True) ((read v).mapError NodeFault.document) ↔ P v := by
  rw [answered_document_iff, ← hread]
  exact ⟨fun ⟨a, h, _⟩ => ⟨a, h⟩, fun ⟨a, h⟩ => ⟨a, h, trivial⟩⟩

/-- A block, which is an object or null. -/
def block (number : Int) : Query Json := ⟨"get_block_by_number", [.ofQuantity number], .ok⟩

/-- Null or an object. -/
def BlockShape (v : Json) : Prop := v = .null ∨ v.IsObject

theorem answered_block_iff {number : Int} (v : Json) : Answered BlockShape ((block number).read v) ↔ BlockShape v :=
  Iff.rfl

/-- The first block, read. -/
def genesis : Query Genesis := ⟨"get_block_by_number", [.ofQuantity 0], Node.readGenesis⟩

/-- Null, or the fields of the first block. -/
def GenesisShape (v : Json) : Prop := v = .null ∨ Genesis.Shape v

theorem answered_genesis_iff (v : Json) : Answered (fun _ => True) (genesis.read v) ↔ GenesisShape v := by
  have hblock : v ≠ .null → (Answered (fun _ => True) (genesis.read v) ↔ GenesisShape v) := by
    intro hne
    have hread : genesis.read v = (Genesis.ofBlock v).mapError .document := by
      unfold genesis Node.readGenesis
      dsimp only
      split
      next => exact absurd rfl hne
      next => rfl
    rw [hread, answered_reading_iff (fun _ => Genesis.exists_ofBlock_iff) v]
    exact (or_iff_right hne).symm
  cases v with
  | null => exact ⟨fun _ => .inl rfl, fun _ => rfl⟩
  | _ => exact hblock nofun

/-- Reads a live cell, if the answer has one. -/
def readLive (withData : Bool) (result : Json) : Except DocumentFault (Option CellBody) := do
  let status ← statusOf result
  if result.truthy && isLive status then some <$> readCell result withData else pure none

/-- A cell, with its data or without. -/
def cell (point : OutPoint) (withData : Bool) : Query (Option CellBody) :=
  ⟨"get_live_cell", [point.toJson, .bool withData], fun v => (readLive withData v).mapError .document⟩

/-- The fields of a cell; data that are false or empty are none. -/
def CellBodyShape (withData : Bool) (v : Json) : Prop := Json.Has "output" CellOutput.Shape v ∧
  (withData = true → ∀ d, v.field? "data" = some d → d.truthy = true → Json.Has "content" Json.IsHex d)

/-- What is neither false nor empty is an object, and has a cell if its status is that of a live one. -/
def CellShape (withData : Bool) (v : Json) : Prop := v.truthy = true → v.IsObject ∧
  (v.field? "status" = some (.str "live") → Json.Has "cell" (CellBodyShape withData) v)

/-- The content of data that may be absent. -/
def contentOf : Option Json → Except DocumentFault (Option Bytes)
  | some d => if d.truthy then some <$> (d.field "content" >>= Json.bytes) else pure none
  | none => pure none

/-- The data of a cell, if they are asked for. -/
def dataOf (withData : Bool) (v : Json) : Except DocumentFault (Option Bytes) :=
  if withData then v.optional "data" >>= contentOf else pure none

theorem readCell_eq (result : Json) (withData : Bool) : readCell result withData = result.field "cell" >>= fun v =>
    dataOf withData v >>= fun data => v.field "output" >>= fun w => CellOutput.ofJson w >>= fun output =>
      pure ⟨output, data⟩ := by
  unfold readCell dataOf
  refine bind_congr fun v => ?_
  cases withData with
  | false => rfl
  | true =>
    dsimp only
    rw [if_pos rfl, if_pos rfl, bind_assoc]
    refine bind_congr fun found => ?_
    cases found with
    | none => rfl
    | some d =>
      unfold contentOf
      dsimp only
      split
      · rw [map_eq_pure_bind, bind_assoc, bind_assoc]
        refine bind_congr fun w => ?_
        rw [map_eq_pure_bind, bind_assoc]
      · rfl

theorem exists_contentOf_iff {found : Option Json} : (∃ b, contentOf found = .ok b) ↔
    ∀ d, found = some d → d.truthy = true → Json.Has "content" Json.IsHex d := by
  cases found with
  | none => exact ⟨fun _ => nofun, fun _ => ⟨none, rfl⟩⟩
  | some d =>
    have hcontent : (∃ b, (some <$> (d.field "content" >>= Json.bytes) : Except DocumentFault (Option Bytes)) = .ok b) ↔
        Json.Has "content" Json.IsHex d := by
      rw [← Json.exists_field_iff fun _ => Json.exists_bytes_iff]
      exact ⟨fun ⟨_, h⟩ => (map_eq_ok_iff.mp h).imp fun _ h => h.1,
        fun ⟨b, h⟩ => ⟨some b, map_eq_ok_iff.mpr ⟨b, h, rfl⟩⟩⟩
    unfold contentOf
    dsimp only
    split
    next htruthy =>
      rw [hcontent]
      exact ⟨fun h e he _ => Option.some.inj he ▸ h, fun h => h d rfl htruthy⟩
    next hfalse =>
      exact ⟨fun _ e he htruthy => absurd (Option.some.inj he ▸ htruthy) hfalse, fun _ => ⟨none, rfl⟩⟩

theorem exists_readCell_iff {withData : Bool} (v : Json) :
    (∃ c, readCell v withData = .ok c) ↔ Json.Has "cell" (CellBodyShape withData) v := by
  rw [readCell_eq]
  refine Json.exists_field_iff fun w => ?_
  have houtput : ∀ data : Option Bytes, (∃ c, (w.field "output" >>= fun u => CellOutput.ofJson u >>= fun output =>
      pure ⟨output, data⟩ : Except DocumentFault CellBody) = .ok c) ↔ Json.Has "output" CellOutput.Shape w :=
    fun data => Json.exists_last_iff fun _ => CellOutput.exists_ofJson_iff
  refine (exists_bind_eq_ok_iff houtput).trans ?_
  unfold CellBodyShape dataOf
  rw [and_comm]
  refine and_congr_right fun houtput => ?_
  cases withData with
  | false => exact ⟨fun _ => nofun, fun _ => ⟨none, rfl⟩⟩
  | true =>
    rw [if_pos rfl, Json.exists_optional_iff fun _ => exists_contentOf_iff, and_iff_right houtput.isObject]
    exact ⟨fun h _ => h, fun h => h rfl⟩

theorem isLive_iff {found : Option Json} : isLive (found.getD .null) = true ↔ found = some (.str "live") := by
  cases found with
  | none => exact ⟨nofun, nofun⟩
  | some v =>
    cases v with
    | str s =>
      show decide (s = "live") = true ↔ _
      rw [decide_eq_true_eq, Option.some.injEq, Json.str.injEq]
    | _ => exact ⟨nofun, nofun⟩

theorem exists_readLive_iff {withData : Bool} (v : Json) :
    (∃ c, readLive withData v = .ok c) ↔ CellShape withData v := by
  by_cases htruthy : v.truthy = true
  · have hread : readLive withData v = v.optional "status" >>= fun found =>
        if isLive (found.getD .null) then some <$> readCell v withData else pure none := by
      unfold readLive statusOf
      rw [if_pos htruthy, bind_assoc, htruthy]
      rfl
    rw [hread]
    refine (Json.exists_optional_iff (p := fun found => found = some (.str "live") →
      Json.Has "cell" (CellBodyShape withData) v) fun found => ?_).trans ⟨fun h _ => h, fun h => h htruthy⟩
    rw [← isLive_iff, ← exists_readCell_iff]
    split
    next hlive =>
      refine ⟨fun ⟨_, h⟩ _ => (map_eq_ok_iff.mp h).imp fun _ h => h.1, fun h => ?_⟩
      obtain ⟨c, hc⟩ := h hlive
      exact ⟨some c, map_eq_ok_iff.mpr ⟨c, hc, rfl⟩⟩
    next hother => exact ⟨fun _ h => absurd h hother, fun _ => ⟨none, rfl⟩⟩
  · have hfalse : v.truthy = false := Bool.eq_false_iff.mpr htruthy
    have hread : readLive withData v = .ok none := by
      unfold readLive statusOf
      rw [if_neg htruthy, hfalse]
      rfl
    exact ⟨fun _ h => absurd h htruthy, fun _ => ⟨none, hread⟩⟩

/-- The hash of a transaction that is sent. -/
def send (tx : Transaction) : Query Bytes :=
  ⟨"send_transaction", [tx.toJson, .str "passthrough"], fun v => v.bytes.mapError .document⟩

/-- The epoch of the last block. -/
def tip : Query Epoch := ⟨"get_tip_header", [], fun v => (readTip v).mapError .document⟩

/-- A header with an epoch. -/
def TipShape : Json → Prop := Json.Has "epoch" Json.IsQuantity

theorem exists_readTip_iff (v : Json) : (∃ e, readTip v = .ok e) ↔ TipShape v :=
  Json.exists_last_iff fun _ => Json.exists_quantity_iff

/-- The blocks of an epoch. -/
def epoch (number : Int) : Query (Option EpochSpan) :=
  ⟨"get_epoch_by_number", [.ofQuantity number], fun v => (readEpoch v).mapError .document⟩

/-- Null, or an epoch with its number, its first block and its length. -/
def EpochShape (v : Json) : Prop := v = .null ∨ Json.Has "number" Json.IsQuantity v ∧
  Json.Has "start_number" Json.IsQuantity v ∧ Json.Has "length" Json.IsQuantity v

theorem exists_readEpoch_iff (v : Json) : (∃ e, readEpoch v = .ok e) ↔ EpochShape v := by
  by_cases hnull : v = .null
  · rw [hnull]
    exact ⟨fun _ => .inl rfl, fun _ => ⟨none, rfl⟩⟩
  · refine Iff.trans ?_ (or_iff_right hnull).symm
    have hread : readEpoch v = v.field "number" >>= fun w => w.quantity >>= fun number =>
        v.field "start_number" >>= fun w => w.quantity >>= fun start =>
          v.field "length" >>= fun w => w.quantity >>= fun length => pure (some ⟨number, start, length⟩) := by
      cases v with
      | null => exact absurd rfl hnull
      | _ => rfl
    rw [hread]
    refine Json.exists_read_iff (fun _ => Json.exists_quantity_iff) fun number => ?_
    refine Json.exists_read_iff (fun _ => Json.exists_quantity_iff) fun start => ?_
    exact Json.exists_last_iff fun _ => Json.exists_quantity_iff

/-- The network of the chain. -/
def network : Query Network := ⟨"get_blockchain_info", [], fun v => (readNetwork v).mapError .document⟩

theorem exists_readNetwork_iff (v : Json) : (∃ n, readNetwork v = .ok n) ↔ v.IsObject := by
  unfold readNetwork
  refine (Json.exists_optional_iff (p := fun _ => True) fun found => ?_).trans (and_iff_left trivial)
  refine ⟨fun _ => trivial, fun _ => ?_⟩
  split <;> exact ⟨_, rfl⟩

end Query

end Rpc

end CellPurse

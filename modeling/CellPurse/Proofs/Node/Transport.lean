import CellPurse.Keys.Extended
import CellPurse.Proofs.Node.Reply

/-!
# CellPurse.Proofs.Node.Transport — what a caller hears of the node

Questions are asked in an environment with a state of its own, which may send anything back and change with every
request and note.

* `Rpc.Asking`, `Rpc.runAt`: a run in such an environment, and how it ends from a state on;
* `Rpc.Placed r url`: the node has an address, at which an answer can be sent;
* `Question`: the questions to a node and those put together from them; `Question.Heard`: all replies to them can be
  understood;
* `Question.answered_iff`: a caller hears a value of the sort that is asked for, or a fault of the way to the node,
  exactly when all replies can be understood;
* `Question.tip_of_page`: a reply that can not be.
-/

namespace CellPurse

open Outcome

namespace Rpc

/-- A run that counts its questions, in an environment with a state. -/
abbrev Asking (σ : Type) := ExceptT NodeFault (StateT Nat (StateM σ))

variable {σ α β : Type}

/-- How a run ends, and where it stands then. -/
def runAt (x : Asking σ α) (s : Nat × σ) : Except NodeFault α × (Nat × σ) :=
  (((x.run.run s.1).run s.2).1.1, (((x.run.run s.1).run s.2).1.2, ((x.run.run s.1).run s.2).2))

theorem runAt_bind (x : Asking σ α) (f : α → Asking σ β) (s : Nat × σ) :
    runAt (x >>= f) s = match runAt x s with
      | (.ok a, s') => runAt (f a) s'
      | (.error e, s') => (.error e, s') := by
  unfold runAt
  rw [ExceptT.run_bind, StateT.run_bind, StateT.run_bind]
  rcases StateT.run (x.run.run s.1) s.2 with ⟨⟨_ | _, n⟩, w⟩ <;> rfl

/-- A reading of what is there changes nothing. -/
theorem runAt_mk (r : Except NodeFault α) (s : Nat × σ) : runAt (ExceptT.mk (pure r) : Asking σ α) s = (r, s) := rfl

/-- The environment works alone. -/
theorem runAt_lift (x : StateM σ α) (s : Nat × σ) :
    runAt (liftM (liftM x : StateT Nat (StateM σ) α) : Asking σ α) s = (.ok (x.run s.2).1, (s.1, (x.run s.2).2)) := rfl

variable [Journal (StateM σ)]

/-! ## Requests -/

/-- The node has an address, at which an answer can be sent. -/
structure Placed (r : Rpc (StateM σ)) (url : Url) : Prop where
  parse : Url.parse r.url = .ok url
  absolute : url.asked.isAbsolute = true

/-- What comes of a request. -/
def replyTo (r : Rpc (StateM σ)) (url : Url) (method : String) (params : List Json) (s : Nat × σ) : Reply :=
  ((r.post url.asked (payload (s.1 + 1) method params)).run s.2).1

variable {r : Rpc (StateM σ)} {url : Url}

/-- A question is asked once, and what is heard is in the reply. -/
theorem runAt_call (h : Placed r url) (method : String) (params : List Json) (s : Nat × σ) :
    ∃ w, runAt (r.call method params) s = (answer method (replyTo r url method params s), (s.1 + 1, w)) := by
  have hplaced : placed url.asked (replyTo r url method params s) = .ok () := by
    unfold placed
    cases replyTo r url method params s with
    | response => exact if_pos h.absolute
    | timeout | failure => rfl
  unfold call
  rw [h.parse, runAt_bind, show runAt (get : Asking σ Nat) s = (.ok s.1, s) from rfl]
  dsimp only
  rw [runAt_bind, show runAt (set (s.1 + 1) : Asking σ PUnit) s = (.ok (), (s.1 + 1, s.2)) from rfl]
  dsimp only
  rw [runAt_bind, runAt_mk]
  show ∃ w, runAt (liftM (liftM (r.post url.asked (payload (s.1 + 1) method params)) : StateT Nat (StateM σ) Reply) >>=
    fun reply => _) (s.1 + 1, s.2) = _
  rw [runAt_bind, runAt_lift]
  dsimp only
  rw [show ((r.post url.asked (payload (s.1 + 1) method params)).run s.2).1 = replyTo r url method params s from rfl]
  generalize replyTo r url method params s = reply at hplaced ⊢
  rw [runAt_bind, runAt_mk, hplaced]
  dsimp only
  cases complaint? method reply with
  | none => exact ⟨_, rfl⟩
  | some text => exact ⟨_, rfl⟩

namespace Query

/-- What comes of the request of a question. -/
def reply (q : Query α) (r : Rpc (StateM σ)) (url : Url) (s : Nat × σ) : Reply := replyTo r url q.method q.params s

/-- A question that is asked and read is judged by the reply. -/
theorem runAt_ask (h : Placed r url) (q : Query α) (s : Nat × σ) :
    (runAt (r.call q.method q.params >>= fun v => ExceptT.mk (pure (q.read v))) s).1 = q.judge (q.reply r url s) := by
  obtain ⟨w, hw⟩ := runAt_call h q.method q.params s
  rw [runAt_bind, hw]
  unfold judge reply
  cases answer q.method (replyTo r url q.method q.params s) with
  | error f => rfl
  | ok v => rfl

theorem runAt_block (h : Placed r url) (number : Int) (s : Nat × σ) :
    (runAt ((node r).block number) s).1 = (block number).judge ((block number).reply r url s) := by
  rw [← runAt_ask h]
  exact congrArg (fun x => (runAt x s).1) (bind_pure _).symm

theorem runAt_cell (h : Placed r url) (point : OutPoint) (withData : Bool) (s : Nat × σ) :
    (runAt ((node r).cell point withData) s).1 = (cell point withData).judge ((cell point withData).reply r url s) := by
  obtain ⟨w, hw⟩ := runAt_call h "get_live_cell" [point.toJson, .bool withData] s
  show (runAt (Rpc.cell r point withData) s).1 = _
  unfold Rpc.cell judge reply cell
  rw [runAt_bind, hw]
  dsimp only
  cases answer "get_live_cell" (replyTo r url "get_live_cell" [point.toJson, .bool withData] s) with
  | error f => rfl
  | ok result =>
    show (runAt (ExceptT.mk (pure ((statusOf result).mapError NodeFault.document)) >>= fun status => _) _).1 =
      (readLive withData result).mapError .document
    unfold readLive
    rw [runAt_bind, runAt_mk]
    cases statusOf result with
    | error f => rfl
    | ok status =>
      show (runAt (if (result.truthy && isLive status) = true then _ else _) _).1 =
        (if (result.truthy && isLive status) = true then _ else _ : Except DocumentFault (Option CellBody)).mapError _
      split
      · cases readCell result withData with
        | error f => rfl
        | ok c => rfl
      · rfl

theorem runAt_send (h : Placed r url) (tx : Transaction) (s : Nat × σ) :
    (runAt ((node r).send tx) s).1 = (send tx).judge ((send tx).reply r url s) := runAt_ask h (send tx) s

theorem runAt_tip (h : Placed r url) (s : Nat × σ) :
    (runAt (node r).tip s).1 = tip.judge (tip.reply r url s) := runAt_ask h tip s

theorem runAt_epoch (h : Placed r url) (number : Int) (s : Nat × σ) :
    (runAt ((node r).epoch number) s).1 = (epoch number).judge ((epoch number).reply r url s) :=
  runAt_ask h (epoch number) s

theorem runAt_network (h : Placed r url) (s : Nat × σ) :
    (runAt (node r).network s).1 = network.judge (network.reply r url s) := runAt_ask h network s

theorem runAt_genesis (h : Placed r url) (s : Nat × σ) :
    (runAt (node r).genesis s).1 = genesis.judge (genesis.reply r url s) := runAt_ask h genesis s

end Query

end Rpc

/-! ## Questions -/

/-- The questions to a node, and those that are put together from them. -/
inductive Question : Type → Type where
  | block (number : Int) : Question Json
  | cell (point : OutPoint) (withData : Bool) : Question (Option CellBody)
  | send (tx : Transaction) : Question Bytes
  | tip : Question Epoch
  | epoch (number : Int) : Question (Option EpochSpan)
  | network : Question Network
  | genesis : Question Genesis
  | cutoff : Question Int

namespace Question

open Rpc

/-- The question is asked of a node. -/
def ask {m : Type → Type} [Monad m] (n : Node m) : {α : Type} → Question α → ExceptT NodeFault m α
  | _, block number => n.block number
  | _, cell point withData => n.cell point withData
  | _, send tx => n.send tx
  | _, tip => n.tip
  | _, epoch number => n.epoch number
  | _, network => n.network
  | _, genesis => n.genesis
  | _, cutoff => n.cutoff

/-- The values that are asked for: a block is null or an object, and of the others there is nothing to say. -/
def Wanted : {α : Type} → Question α → α → Prop
  | _, block _ => Query.BlockShape
  | _, _ => fun _ => True

variable {σ : Type} [Journal (StateM σ)] {r : Rpc (StateM σ)} {url : Url}

/-- All replies to the question can be understood.  The question for the cutoff asks for the tip, and after that for an
epoch, where there is one that is old enough. -/
def Heard (r : Rpc (StateM σ)) (url : Url) (s : Nat × σ) : {α : Type} → Question α → Prop
  | _, block number => Understood Query.BlockShape ((Query.block number).reply r url s)
  | _, cell point withData => Understood (Query.CellShape withData) ((Query.cell point withData).reply r url s)
  | _, send tx => Understood Json.IsHex ((Query.send tx).reply r url s)
  | _, tip => Understood Query.TipShape (Query.tip.reply r url s)
  | _, epoch number => Understood Query.EpochShape ((Query.epoch number).reply r url s)
  | _, network => Understood Json.IsObject (Query.network.reply r url s)
  | _, genesis => Understood Query.GenesisShape (Query.genesis.reply r url s)
  | _, cutoff => Understood Query.TipShape (Query.tip.reply r url s) ∧
      ∀ tip s', runAt (node r).tip s = (.ok tip, s') → Maturity.epochs ≤ tip.number →
        Understood Query.EpochShape ((Query.epoch (tip.number - Maturity.epochs)).reply r url s')

theorem answered_tip_iff (h : Placed r url) (s : Nat × σ) :
    Answered (fun _ => True) (runAt (node r).tip s).1 ↔ Understood Query.TipShape (Query.tip.reply r url s) := by
  rw [Query.runAt_tip h]
  exact Query.answered_judge_iff (Query.answered_reading_iff Query.exists_readTip_iff)

theorem answered_epoch_iff (h : Placed r url) (number : Int) (s : Nat × σ) :
    Answered (fun _ => True) (runAt ((node r).epoch number) s).1 ↔
      Understood Query.EpochShape ((Query.epoch number).reply r url s) := by
  rw [Query.runAt_epoch h]
  exact Query.answered_judge_iff (Query.answered_reading_iff Query.exists_readEpoch_iff)

theorem answered_cutoff_iff (h : Placed r url) (s : Nat × σ) :
    Answered (fun _ => True) (runAt (node r).cutoff s).1 ↔ Heard r url s cutoff := by
  unfold Node.cutoff Heard
  rw [runAt_bind, ← answered_tip_iff h]
  cases htip : runAt (node r).tip s with
  | mk outcome s' =>
    cases outcome with
    | error f =>
      refine ⟨fun hf => ⟨hf, fun _ _ h' => ?_⟩, fun hf => hf.1⟩
      cases h'
    | ok tip =>
      dsimp only
      by_cases hyoung : tip.number < Maturity.epochs
      · rw [if_pos hyoung]
        refine ⟨fun _ => ⟨trivial, fun _ _ h' hold => ?_⟩, fun _ => trivial⟩
        cases h'
        exact absurd hyoung (Int.not_lt.mpr hold)
      · rw [if_neg hyoung, runAt_bind]
        have hafter : (∀ e w, ((.ok tip, s') : Except NodeFault Epoch × (Nat × σ)) = (.ok e, w) →
            Maturity.epochs ≤ e.number → Understood Query.EpochShape
              ((Query.epoch (e.number - Maturity.epochs)).reply r url w)) ↔
            Answered (fun _ => True) (runAt ((node r).epoch (tip.number - Maturity.epochs)) s').1 := by
          rw [answered_epoch_iff h]
          refine ⟨fun hall => hall tip s' rfl (Int.not_lt.mp hyoung), fun hepoch e w heq _ => ?_⟩
          cases heq
          exact hepoch
        rw [hafter]
        rcases runAt ((node r).epoch (tip.number - Maturity.epochs)) s' with ⟨f | span, s''⟩
        · exact (and_iff_right trivial).symm
        · cases span with
          | none => exact ⟨fun _ => ⟨trivial, trivial⟩, fun _ => rfl⟩
          | some span => exact ⟨fun _ => ⟨trivial, trivial⟩, fun _ => trivial⟩

/-- **A caller hears a value of the sort that is asked for, or a fault of the way to the node, exactly when all replies
can be understood.** -/
theorem answered_iff (h : Placed r url) {α : Type} (q : Question α) (s : Nat × σ) :
    Answered q.Wanted (runAt (q.ask (node r)) s).1 ↔ q.Heard r url s := by
  cases q with
  | block number =>
    show Answered _ (runAt ((node r).block number) s).1 ↔ _
    rw [Query.runAt_block h]
    exact Query.answered_judge_iff Query.answered_block_iff
  | cell point withData =>
    show Answered _ (runAt ((node r).cell point withData) s).1 ↔ _
    rw [Query.runAt_cell h]
    exact Query.answered_judge_iff (Query.answered_reading_iff Query.exists_readLive_iff)
  | send tx =>
    show Answered _ (runAt ((node r).send tx) s).1 ↔ _
    rw [Query.runAt_send h]
    exact Query.answered_judge_iff (Query.answered_reading_iff fun _ => Json.exists_bytes_iff)
  | tip => exact answered_tip_iff h s
  | epoch number => exact answered_epoch_iff h number s
  | network =>
    show Answered _ (runAt (node r).network s).1 ↔ _
    rw [Query.runAt_network h]
    exact Query.answered_judge_iff (Query.answered_reading_iff Query.exists_readNetwork_iff)
  | genesis =>
    show Answered _ (runAt (node r).genesis s).1 ↔ _
    rw [Query.runAt_genesis h]
    exact Query.answered_judge_iff Query.answered_genesis_iff
  | cutoff => exact answered_cutoff_iff h s

/-! ## A node that always says the same -/

namespace Sample

/-- Notes are kept in their order. -/
instance : Journal (StateM (List Note)) := ⟨fun n => modify (· ++ [n])⟩

/-- A node that always gives one reply. -/
def still (reply : Reply) : Rpc (StateM (List Note)) := ⟨Rpc.defaultUrl, fun _ _ => pure reply⟩

/-- Where it is. -/
def place : Url where
  scheme := "http"
  host := "127.0.0.1"
  port := some 8114
  path := ""
  query := none

theorem parse_defaultUrl : Url.parse Rpc.defaultUrl = .ok place := by decide +kernel

theorem placed_still (reply : Reply) : Placed (still reply) place := ⟨parse_defaultUrl, by decide⟩

/-- The header of a block in epoch 3. -/
def header : Bytes := Seed.utf8 "\x7b\"result\": \x7b\"epoch\": \"0x3\"\x7d\x7d"

/-- A page. -/
def page : Bytes := Seed.utf8 "<html>busy</html>"

theorem judge_header : Query.tip.judge (.response 200 header) = .ok ⟨3, 0, 0⟩ := by decide +kernel

theorem judge_page : Query.tip.judge (.response 200 page) = .error (.text .malformed) := by decide +kernel

end Sample

open Question.Sample

/-- A header is understood, and the caller hears of its epoch. -/
theorem tip_of_header :
    Placed (still (.response 200 header)) place ∧
      (runAt (tip.ask (node (still (.response 200 header)))) (0, [])).1 = .ok ⟨3, 0, 0⟩ ∧
      tip.Heard (still (.response 200 header)) place (0, []) := by
  have htip : (runAt (tip.ask (node (still (.response 200 header)))) (0, [])).1 = .ok ⟨3, 0, 0⟩ :=
    (Query.runAt_tip (placed_still _) (0, [])).trans judge_header
  refine ⟨placed_still _, htip, (answered_iff (placed_still _) tip (0, [])).mp ?_⟩
  rw [htip]
  exact trivial

/-- A gateway that answers with a page in place of a document: the caller hears of a text that can not be read, which is
no fault of the way to the node. -/
theorem tip_of_page :
    (runAt (tip.ask (node (still (.response 200 page)))) (0, [])).1 = .error (.text .malformed) ∧
      (NodeFault.text .malformed).isTransport = false :=
  ⟨(Query.runAt_tip (placed_still _) (0, [])).trans judge_page, rfl⟩

end Question

end CellPurse

import CellPurse.Proofs.Molecule.RoundTrip

/-!
# CellPurse.Proofs.Molecule.Canonical — which byte strings are written, and which are read

A reader takes more than what a writer makes.  It compares the size in front with that of the bytes, and counts the
parts; it takes the offsets as they come, and of each part as many bytes as its length says, as far as there are any.

* `Molecule.flatten_cut`, `Molecule.starts_cut`: offsets that ascend cut a byte string into items without gaps;
* `Molecule.table_cut_iff`: a byte string with a good size is the table of what is read of it exactly if its offsets
  begin behind the last of them and ascend;
* `Witness.Framed`, `Witness.Strict`: what is looked at in a witness that is read, and what more is true of one that was
  written;
* `Witness.strict_iff`: what is read of a byte string is written as these bytes exactly if they are strict.
-/

namespace CellPurse

open Outcome

/-! ## Words -/

namespace Bytes

theorem ofNatLE_toNatLE (b : Bytes) : ofNatLE b.length (toNatLE b) = b := by
  induction b with
  | nil => rfl
  | cons d r ih =>
    have hd := d.toNat_lt
    have hlow : UInt8.ofNat (d.toNat + 256 * toNatLE r) = d := by
      rw [← UInt8.toNat_inj, UInt8.toNat_ofNat']
      omega
    have hhigh : (d.toNat + 256 * toNatLE r) / 256 = toNatLE r := by omega
    rw [List.length_cons, toNatLE, ofNatLE, hlow, hhigh, ih]

end Bytes

namespace Molecule

variable {data : Bytes} {offset n start stop first : Nat} {items : List Bytes} {places : List Nat}

theorem wordAt_eq_ok_iff : wordAt data offset = .ok n ↔
    offset + 4 ≤ data.length ∧ Bytes.toNatLE ((data.drop offset).take 4) = n := by
  unfold wordAt
  split_ifs with h
  · rw [Except.ok.injEq]
    exact ⟨fun hn => ⟨h, hn⟩, And.right⟩
  · exact ⟨nofun, fun hn => absurd hn.1 h⟩

/-- There is a word wherever there are four bytes. -/
theorem exists_wordAt_iff : (∃ n, wordAt data offset = .ok n) ↔ offset + 4 ≤ data.length :=
  ⟨fun ⟨_, h⟩ => (wordAt_eq_ok_iff.mp h).1, fun h => ⟨_, wordAt_eq_ok_iff.mpr ⟨h, rfl⟩⟩⟩

theorem faults_wordAt (data : Bytes) (offset : Nat) : Faults (· = .tooShort) (wordAt data offset) := by
  unfold wordAt
  split
  · exact faults_pure _
  · exact faults_throw rfl

/-- A word that was read is written as it was. -/
theorem u32_of_wordAt (h : wordAt data offset = .ok n) : u32 n = .ok ((data.drop offset).take 4) := by
  obtain ⟨hroom, rfl⟩ := wordAt_eq_ok_iff.mp h
  have hlength : ((data.drop offset).take 4).length = 4 := by
    rw [List.length_take, List.length_drop]
    omega
  have hlt := Bytes.toNatLE_lt ((data.drop offset).take 4)
  have hback := Bytes.ofNatLE_toNatLE ((data.drop offset).take 4)
  rw [hlength] at hlt hback
  exact u32_natCast_eq_ok_iff.mpr ⟨by omega, hback.symm⟩

theorem length_of_wordsAt (h : wordsAt data n offset = .ok places) : places.length = n := by
  induction n generalizing offset places with
  | zero =>
    cases h
    rfl
  | succ n ih =>
    obtain ⟨w, -, h⟩ := bind_eq_ok_iff.mp h
    obtain ⟨r, hr, h⟩ := bind_eq_ok_iff.mp h
    rw [← pure_eq_ok_iff.mp h, List.length_cons, ih hr]

theorem faults_wordsAt (data : Bytes) (n offset : Nat) : Faults (· = .tooShort) (wordsAt data n offset) := by
  induction n generalizing offset with
  | zero => exact faults_pure _
  | succ n ih => exact (faults_wordAt _ _).bind fun _ => (ih _).bind fun _ => faults_pure _

/-- Offsets that were read are written as they were. -/
theorem offsets_of_wordsAt (h : wordsAt data items.length offset = .ok (starts start items)) :
    offsets start items = .ok ((data.drop offset).take (4 * items.length)) := by
  induction items generalizing start offset with
  | nil => rfl
  | cons item r ih =>
    obtain ⟨w, hw, h⟩ := bind_eq_ok_iff.mp h
    obtain ⟨next, hnext, h⟩ := bind_eq_ok_iff.mp h
    obtain ⟨rfl, rfl⟩ := List.cons.inj (pure_eq_ok_iff.mp h)
    have hsplit : (data.drop offset).take (4 * (item :: r).length) =
        (data.drop offset).take 4 ++ (data.drop (offset + 4)).take (4 * r.length) := by
      rw [List.length_cons, Nat.mul_add_one, Nat.add_comm, List.take_add, List.drop_drop]
    rw [offsets, hsplit]
    exact bind_eq_ok_iff.mpr ⟨_, u32_of_wordAt hw, bind_eq_ok_iff.mpr ⟨_, ih hnext, rfl⟩⟩

/-! ## Offsets that ascend -/

theorem length_slice (hstop : stop ≤ data.length) : (slice data start stop).length = stop - start := by
  rw [slice, List.length_drop, List.length_take, Nat.min_eq_left hstop]

theorem slice_append_slice {middle : Nat} (h : start ≤ middle) (h' : middle ≤ stop) :
    slice data start middle ++ slice data middle stop = slice data start stop := by
  unfold slice
  have hfront : data.take middle = (data.take stop).take middle := by rw [List.take_take, Nat.min_eq_left h']
  rw [hfront, List.drop_take, ← Nat.add_sub_cancel' h, ← List.drop_drop, Nat.add_sub_cancel_left]
  exact List.take_append_drop _ _

theorem length_cut (data : Bytes) (places : List Nat) : (cut data places).length = places.length - 1 := by
  induction places with
  | nil => rfl
  | cons start r ih =>
    cases r with
    | nil => rfl
    | cons next r => simp [cut, ih]

/-- What ascending offsets cut out covers all from the first to the last. -/
theorem flatten_cut (h : (start :: places ++ [stop]).Pairwise (· ≤ ·)) :
    (cut data (start :: places ++ [stop])).flatten = slice data start stop := by
  induction places generalizing start with
  | nil => simp [cut]
  | cons next r ih =>
    obtain ⟨hstart, hrest⟩ := List.pairwise_cons.mp h
    obtain ⟨hnext, -⟩ := List.pairwise_cons.mp hrest
    have hcut : cut data (start :: (next :: r) ++ [stop]) = slice data start next :: cut data (next :: r ++ [stop]) :=
      rfl
    rw [hcut, List.flatten_cons, ih hrest]
    exact slice_append_slice (hstart next (by simp)) (hnext stop (by simp))

/-- Ascending offsets are where the items begin that they cut out. -/
theorem starts_cut (h : (start :: places ++ [stop]).Pairwise (· ≤ ·)) (hstop : stop ≤ data.length) :
    starts start (cut data (start :: places ++ [stop])) = start :: places := by
  induction places generalizing start with
  | nil => simp [cut, starts]
  | cons next r ih =>
    obtain ⟨hstart, hrest⟩ := List.pairwise_cons.mp h
    obtain ⟨hnext, -⟩ := List.pairwise_cons.mp hrest
    have hcut : cut data (start :: (next :: r) ++ [stop]) = slice data start next :: cut data (next :: r ++ [stop]) :=
      rfl
    have hle : start ≤ next := hstart next (by simp)
    have hend : next ≤ stop := hnext stop (by simp)
    have hplace : start + (slice data start next).length = next := by
      rw [length_slice (by omega)]
      omega
    rw [hcut, starts, hplace, ih hrest]

/-- Where items begin, and where the last of them ends, ascends. -/
theorem pairwise_starts (start : Nat) (items : List Bytes) :
    (starts start items ++ [start + items.flatten.length]).Pairwise (· ≤ ·) ∧
      ∀ n ∈ starts start items ++ [start + items.flatten.length], start ≤ n := by
  induction items generalizing start with
  | nil => simp [starts]
  | cons item r ih =>
    obtain ⟨hpairs, hleast⟩ := ih (start + item.length)
    have hend : start + (item :: r).flatten.length = start + item.length + r.flatten.length := by
      rw [List.flatten_cons, List.length_append, Nat.add_assoc]
    rw [hend, starts, List.cons_append, List.pairwise_cons, List.forall_mem_cons]
    refine ⟨⟨fun n hn => ?_, hpairs⟩, Nat.le_refl _, fun n hn => ?_⟩
    · have := hleast n hn
      omega
    · have := hleast n hn
      omega

/-! ## Tables -/

theorem table_eq_ok_iff : table items = .ok data ↔ ∃ size places, u32 (tableSize items : Nat) = .ok size ∧
    offsets (4 + 4 * items.length) items = .ok places ∧ size ++ (places ++ items.flatten) = data := by
  unfold table
  simp only [bind_eq_ok_iff, pure_eq_ok_iff, List.append_assoc]
  constructor
  · rintro ⟨size, hsize, places, hplaces, h⟩
    exact ⟨size, places, hsize, hplaces, h⟩
  · rintro ⟨size, places, hsize, hplaces, h⟩
    exact ⟨size, hsize, places, hplaces, h⟩

/-- The offsets of a table that was written are where its items begin, and its last item ends where the bytes end. -/
theorem wordsAt_table (h : table items = .ok data) :
    wordsAt data items.length 4 = .ok (starts (4 + 4 * items.length) items) ∧
      4 + 4 * items.length + items.flatten.length = data.length := by
  obtain ⟨size, places, hsize, hplaces, rfl⟩ := table_eq_ok_iff.mp h
  have hs := length_of_u32 hsize
  have hp := length_of_offsets hplaces
  refine ⟨?_, by simp only [List.length_append, hs, hp, Nat.add_assoc]⟩
  have hread := wordsAt_offsets hplaces size items.flatten
  rwa [hs] at hread

/-- Where a table of `count` items begins to hold items: behind the size and the offsets. -/
def headSize (count : Nat) : Nat := 4 + 4 * count

/-- Offsets that begin at the items and ascend cut out what lies behind them, and are where these items begin. -/
theorem cut_of_ascending (hhead : (places ++ [data.length]).head? = some (headSize places.length))
    (hpairs : (places ++ [data.length]).Pairwise (· ≤ ·)) :
    (cut data (places ++ [data.length])).flatten = data.drop (headSize places.length) ∧
      starts (headSize places.length) (cut data (places ++ [data.length])) = places ∧
      headSize places.length ≤ data.length := by
  cases places with
  | nil =>
    have hlength : data.length = headSize 0 := Option.some.inj hhead
    refine ⟨?_, rfl, Nat.le_of_eq hlength.symm⟩
    rw [List.length_nil, ← hlength, List.drop_length]
    rfl
  | cons first r =>
    have hstart : headSize (first :: r).length = first := (Option.some.inj hhead).symm
    obtain ⟨hfirst, -⟩ := List.pairwise_cons.mp hpairs
    rw [hstart]
    refine ⟨?_, starts_cut hpairs (Nat.le_refl _), hfirst _ (by simp)⟩
    rw [flatten_cut hpairs, slice, List.take_length]

/-- **A byte string is the table of what is read of it** exactly if its offsets begin behind the last of them and
ascend, none of them above the end. -/
theorem table_cut_iff (hsize : wordAt data 0 = .ok data.length) (hwords : wordsAt data places.length 4 = .ok places) :
    table (cut data (places ++ [data.length])) = .ok data ↔
      (places ++ [data.length]).head? = some (headSize places.length) ∧
        (places ++ [data.length]).Pairwise (· ≤ ·) := by
  have hcount : (cut data (places ++ [data.length])).length = places.length := by simp [length_cut]
  constructor
  · intro h
    obtain ⟨hstarts, hend⟩ := wordsAt_table h
    generalize cut data (places ++ [data.length]) = items at hcount hstarts hend
    rw [hcount, hwords, Except.ok.injEq] at hstarts
    rw [hcount] at hend
    obtain ⟨r, hr⟩ := starts_append_end (4 + 4 * places.length) items
    have hpairs := (pairwise_starts (4 + 4 * places.length) items).1
    rw [← hstarts, hend] at hr hpairs
    exact ⟨by rw [hr]; rfl, hpairs⟩
  · rintro ⟨hhead, hpairs⟩
    obtain ⟨hflatten, hstarts, hroom⟩ := cut_of_ascending hhead hpairs
    generalize cut data (places ++ [data.length]) = items at hcount hflatten hstarts
    have hwhole : tableSize items = data.length := by
      rw [tableSize, hcount, hflatten, List.length_drop]
      exact Nat.add_sub_cancel' hroom
    rw [← hcount, ← hstarts] at hwords
    refine table_eq_ok_iff.mpr ⟨data.take 4, (data.drop 4).take (4 * items.length), ?_, ?_, ?_⟩
    · rw [hwhole]
      exact u32_of_wordAt hsize
    · exact offsets_of_wordsAt (hcount ▸ hwords)
    · rw [hflatten, headSize, ← hcount, ← List.drop_drop, List.take_append_drop, List.take_append_drop]

/-- A table is read as items only if its size is that of the bytes, and then as many as its first offset says. -/
theorem fields_eq_ok_iff (hitems : items ≠ []) : fields data = .ok items ↔ wordAt data 0 = .ok data.length ∧
    data.length ≠ 4 ∧ ∃ first places, wordAt data 4 = .ok first ∧ wordsAt data (first / 4 - 1) 4 = .ok places ∧
      cut data (places ++ [data.length]) = items := by
  unfold fields
  rw [bind_eq_ok_iff]
  constructor
  · rintro ⟨size, hsize, h⟩
    by_cases hwhole : size = data.length
    · subst hwhole
      rw [if_neg (not_not_intro rfl)] at h
      by_cases hfour : data.length = 4
      · rw [if_pos hfour] at h
        exact absurd (pure_eq_ok_iff.mp h).symm hitems
      · rw [if_neg hfour] at h
        obtain ⟨first, hfirst, h⟩ := bind_eq_ok_iff.mp h
        obtain ⟨places, hplaces, h⟩ := bind_eq_ok_iff.mp h
        exact ⟨hsize, hfour, first, places, hfirst, hplaces, pure_eq_ok_iff.mp h⟩
    · rw [if_pos hwhole] at h
      cases h
  · rintro ⟨hsize, hfour, first, places, hfirst, hplaces, h⟩
    refine ⟨data.length, hsize, ?_⟩
    rw [if_neg (not_not_intro rfl), if_neg hfour]
    exact bind_eq_ok_iff.mpr ⟨first, hfirst, bind_eq_ok_iff.mpr ⟨places, hplaces, pure_eq_ok_iff.mpr h⟩⟩

theorem faults_fields (data : Bytes) :
    Faults (fun e => e = .tooShort ∨ ∃ size, e = .tableSize size data.length) (fields data) := by
  have hword : ∀ offset, Faults (fun e => e = .tooShort ∨ ∃ size, e = .tableSize size data.length)
      (wordAt data offset) := fun offset e h => .inl (faults_wordAt data offset e h)
  have hwords : ∀ n, Faults (fun e => e = .tooShort ∨ ∃ size, e = .tableSize size data.length)
      (wordsAt data n 4) := fun n e h => .inl (faults_wordsAt data n 4 e h)
  refine (hword 0).bind fun size => ?_
  split
  · exact faults_throw (.inr ⟨size, rfl⟩)
  · split
    · exact faults_pure _
    · exact (hword 4).bind fun _ => (hwords _).bind fun _ => faults_pure _

end Molecule

/-! ## Witnesses -/

namespace Witness

open Molecule

variable {data raw : Bytes} {part : Option Bytes} {w : Witness} {a b c : Nat}

/-- What is looked at when a witness is read, whose parts begin at `a`, `b` and `c`: the size, and that the first offset
is that of three parts. -/
structure Framed (data : Bytes) (a b c : Nat) : Prop where
  size : wordAt data 0 = .ok data.length
  first : wordAt data 4 = .ok a
  second : wordAt data 8 = .ok b
  third : wordAt data 12 = .ok c
  three : a / 4 = 4

/-- The bytes of the parts. -/
def parts (data : Bytes) (a b c : Nat) : List Bytes :=
  [slice data a b, slice data b c, slice data c data.length]

/-- What is not looked at: the parts begin behind the offsets and follow each other up to the end, and a part that is
present has the length that stands in front of it. -/
structure Strict (data : Bytes) (a b c : Nat) : Prop where
  behind : a = headSize 3
  ascending : a ≤ b ∧ b ≤ c ∧ c ≤ data.length
  exact : ∀ raw ∈ parts data a b c, raw = [] ∨ wordAt raw 0 = .ok (raw.length - 4)

/-- Where the parts begin is what the words say. -/
theorem Framed.unique {a' b' c' : Nat} (h : Framed data a b c) (h' : Framed data a' b' c') :
    a = a' ∧ b = b' ∧ c = c' :=
  ⟨Except.ok.inj (h.first.symm.trans h'.first), Except.ok.inj (h.second.symm.trans h'.second),
    Except.ok.inj (h.third.symm.trans h'.third)⟩

theorem Framed.wordsAt (h : Framed data a b c) : wordsAt data 3 4 = .ok [a, b, c] := by
  unfold Molecule.wordsAt
  rw [h.first, ok_bind]
  unfold Molecule.wordsAt
  rw [h.second, ok_bind]
  unfold Molecule.wordsAt
  rw [h.third]
  rfl

/-- Three words behind the size say where three parts begin. -/
theorem framed_of_wordsAt {places : List Nat} (hsize : wordAt data 0 = .ok data.length) (hfirst : wordAt data 4 = .ok a)
    (hthree : a / 4 = 4) (h : Molecule.wordsAt data 3 4 = .ok places) :
    ∃ b c, places = [a, b, c] ∧ Framed data a b c := by
  unfold Molecule.wordsAt at h
  rw [hfirst, ok_bind] at h
  obtain ⟨rest, hrest, h⟩ := bind_eq_ok_iff.mp h
  obtain ⟨b, hb, hrest⟩ := bind_eq_ok_iff.mp hrest
  obtain ⟨last, hlast, hrest⟩ := bind_eq_ok_iff.mp hrest
  obtain ⟨c, hc, hlast⟩ := bind_eq_ok_iff.mp hlast
  obtain rfl := pure_eq_ok_iff.mp hlast
  obtain rfl := pure_eq_ok_iff.mp hrest
  exact ⟨b, c, (pure_eq_ok_iff.mp h).symm, hsize, hfirst, hb, hc, hthree⟩

/-- The fields of three parts. -/
theorem fields_eq_three_iff {l i o : Bytes} :
    fields data = .ok [l, i, o] ↔ ∃ a b c, Framed data a b c ∧ parts data a b c = [l, i, o] := by
  rw [fields_eq_ok_iff (List.cons_ne_nil _ _)]
  constructor
  · rintro ⟨hsize, -, a, places, hfirst, hwords, hcut⟩
    have hcount := congrArg List.length hcut
    rw [length_cut, List.length_append, length_of_wordsAt hwords] at hcount
    have hthree : a / 4 - 1 = 3 := by simpa using hcount
    rw [hthree] at hwords
    obtain ⟨b, c, rfl, hframed⟩ := framed_of_wordsAt hsize hfirst (by omega) hwords
    exact ⟨a, b, c, hframed, hcut⟩
  · rintro ⟨a, b, c, h, hparts⟩
    have hroom : 12 + 4 ≤ data.length := exists_wordAt_iff.mp ⟨c, h.third⟩
    have hcount : a / 4 - 1 = 3 := by rw [h.three]
    exact ⟨h.size, by omega, a, [a, b, c], h.first, hcount ▸ h.wordsAt, hparts⟩

/-! ### Parts -/

/-- A part is read as absent where there are no bytes, and else as many bytes as its length says, as far as there are
any. -/
theorem readPart_eq_ok_iff : readPart raw = .ok part ↔
    raw = [] ∧ part = none ∨ ∃ size, wordAt raw 0 = .ok size ∧ part = some (slice raw 4 (4 + size)) := by
  unfold readPart
  cases raw with
  | nil =>
    constructor
    · intro h
      exact .inl ⟨rfl, (Except.ok.inj h).symm⟩
    · rintro (⟨-, rfl⟩ | ⟨size, h, -⟩)
      · rfl
      · cases h
  | cons d r =>
    rw [List.isEmpty_cons, if_neg Bool.false_ne_true, bind_eq_ok_iff]
    constructor
    · rintro ⟨size, hsize, h⟩
      exact .inr ⟨size, hsize, (pure_eq_ok_iff.mp h).symm⟩
    · rintro (⟨h, -⟩ | ⟨size, hsize, rfl⟩)
      · cases h
      · exact ⟨size, hsize, rfl⟩

theorem exists_readPart_iff : (∃ part, readPart raw = .ok part) ↔ raw = [] ∨ 4 ≤ raw.length := by
  simp only [readPart_eq_ok_iff]
  constructor
  · rintro ⟨part, ⟨h, -⟩ | ⟨size, h, -⟩⟩
    · exact .inl h
    · exact .inr (wordAt_eq_ok_iff.mp h).1
  · rintro (h | h)
    · exact ⟨none, .inl ⟨h, rfl⟩⟩
    · obtain ⟨size, hsize⟩ := exists_wordAt_iff.mpr (show 0 + 4 ≤ raw.length by omega)
      exact ⟨_, .inr ⟨size, hsize, rfl⟩⟩

/-- What is read of a part is written as it was if there is no part, or the length in front is that of what follows. -/
theorem writePart_iff_of_readPart (h : readPart raw = .ok part) :
    writePart part = .ok raw ↔ raw = [] ∨ wordAt raw 0 = .ok (raw.length - 4) := by
  obtain ⟨rfl, rfl⟩ | ⟨size, hsize, rfl⟩ := readPart_eq_ok_iff.mp h
  · exact ⟨fun _ => .inl rfl, fun _ => writePart_none⟩
  · rw [writePart_some]
    have hroom : 0 + 4 ≤ raw.length := (wordAt_eq_ok_iff.mp hsize).1
    constructor
    · intro hwritten
      obtain ⟨word, hword, hraw⟩ := bind_eq_ok_iff.mp hwritten
      rw [pure_eq_ok_iff] at hraw
      have hcontent : raw.length = 4 + (slice raw 4 (4 + size)).length := by
        rw [← length_of_u32 hword, ← List.length_append, length_of_u32 hword, hraw]
      have hread := wordAt_append hword [] (slice raw 4 (4 + size))
      rw [List.nil_append, hraw] at hread
      exact .inr (hread.trans (congrArg _ (by omega)))
    · rintro (rfl | hexact)
      · cases hsize
      · obtain rfl : size = raw.length - 4 := Except.ok.inj (hsize.symm.trans hexact)
        have hcontent : slice raw 4 (4 + (raw.length - 4)) = raw.drop 4 := by
          rw [Nat.add_sub_cancel' (by omega), slice, List.take_length]
        have hword := u32_of_wordAt hsize
        rw [List.drop_zero] at hword
        refine bind_eq_ok_iff.mpr ⟨raw.take 4, ?_, ?_⟩
        · rw [hcontent, List.length_drop]
          exact hword
        · rw [hcontent, pure_eq_ok_iff, List.take_append_drop]

theorem faults_readPart (raw : Bytes) : Faults (· = .tooShort) (readPart raw) := by
  unfold readPart
  split
  · exact faults_pure _
  · exact (faults_wordAt raw 0).bind fun _ => faults_pure _

/-! ### The whole -/

/-- A witness is read part by part. -/
theorem deserialize_eq_ok_iff : deserialize data = .ok w ↔ ∃ a b c, Framed data a b c ∧
    readPart (slice data a b) = .ok w.lock ∧ readPart (slice data b c) = .ok w.inputType ∧
      readPart (slice data c data.length) = .ok w.outputType := by
  unfold deserialize
  rw [bind_eq_ok_iff]
  constructor
  · rintro ⟨fields, hfields, h⟩
    split at h
    · obtain ⟨a, b, c, hframed, hparts⟩ := fields_eq_three_iff.mp hfields
      obtain ⟨rfl, rfl, rfl⟩ : _ ∧ _ ∧ _ := by simpa [parts] using hparts
      obtain ⟨lock, hlock, h⟩ := bind_eq_ok_iff.mp h
      obtain ⟨inputType, hinput, h⟩ := bind_eq_ok_iff.mp h
      obtain ⟨outputType, houtput, h⟩ := bind_eq_ok_iff.mp h
      obtain rfl := pure_eq_ok_iff.mp h
      exact ⟨a, b, c, hframed, hlock, hinput, houtput⟩
    · cases h
  · rintro ⟨a, b, c, hframed, hlock, hinput, houtput⟩
    refine ⟨parts data a b c, fields_eq_three_iff.mpr ⟨a, b, c, hframed, rfl⟩, ?_⟩
    exact bind_eq_ok_iff.mpr ⟨_, hlock, bind_eq_ok_iff.mpr ⟨_, hinput, bind_eq_ok_iff.mpr ⟨_, houtput, rfl⟩⟩⟩

theorem exists_deserialize_iff : (∃ w, deserialize data = .ok w) ↔
    ∃ a b c, Framed data a b c ∧ ∀ raw ∈ parts data a b c, raw = [] ∨ 4 ≤ raw.length := by
  simp only [deserialize_eq_ok_iff, parts, List.forall_mem_cons, ← exists_readPart_iff]
  constructor
  · rintro ⟨w, a, b, c, hframed, hlock, hinput, houtput⟩
    exact ⟨a, b, c, hframed, ⟨_, hlock⟩, ⟨_, hinput⟩, ⟨_, houtput⟩, List.forall_mem_nil _⟩
  · rintro ⟨a, b, c, hframed, ⟨lock, hlock⟩, ⟨inputType, hinput⟩, ⟨outputType, houtput⟩, -⟩
    exact ⟨⟨lock, inputType, outputType⟩, a, b, c, hframed, hlock, hinput, houtput⟩

/-- The bytes of the parts are the table if the parts begin behind the offsets and follow each other. -/
theorem table_parts_iff (h : Framed data a b c) : table (parts data a b c) = .ok data ↔
    a = headSize 3 ∧ a ≤ b ∧ b ≤ c ∧ c ≤ data.length := by
  have hcut : table (cut data ([a, b, c] ++ [data.length])) = .ok data ↔ _ := table_cut_iff h.size h.wordsAt
  refine hcut.trans ?_
  simp only [List.cons_append, List.nil_append, List.head?_cons, Option.some.injEq, List.length_cons, List.length_nil,
    List.pairwise_cons, List.forall_mem_cons]
  constructor
  · rintro ⟨hbehind, ⟨hab, -⟩, ⟨hbc, -⟩, ⟨hc, -⟩, -⟩
    exact ⟨hbehind, hab, hbc, hc⟩
  · rintro ⟨hbehind, hab, hbc, hc⟩
    exact ⟨hbehind, ⟨hab, by omega, by omega, List.forall_mem_nil _⟩, ⟨hbc, by omega, List.forall_mem_nil _⟩,
      ⟨hc, List.forall_mem_nil _⟩, List.forall_mem_nil _, .nil⟩

/-- What is read of a byte string is written as these bytes exactly if they are strict. -/
theorem serialize_iff_strict (h : deserialize data = .ok w) (hframed : Framed data a b c) :
    w.serialize = .ok data ↔ Strict data a b c := by
  obtain ⟨a', b', c', hframed', hlock, hinput, houtput⟩ := deserialize_eq_ok_iff.mp h
  obtain ⟨rfl, rfl, rfl⟩ := hframed.unique hframed'
  have hparts : (∀ raw ∈ parts data a b c, raw = [] ∨ wordAt raw 0 = .ok (raw.length - 4)) ↔
      writePart w.lock = .ok (slice data a b) ∧ writePart w.inputType = .ok (slice data b c) ∧
        writePart w.outputType = .ok (slice data c data.length) := by
    rw [writePart_iff_of_readPart hlock, writePart_iff_of_readPart hinput, writePart_iff_of_readPart houtput]
    simp [parts]
  constructor
  · intro hwritten
    obtain ⟨l, i, o, hl, hi, ho, htable⟩ := serialize_eq_ok_iff.mp hwritten
    obtain ⟨a', b', c', hframed', hlio⟩ := fields_eq_three_iff.mp (fields_table htable)
    obtain ⟨rfl, rfl, rfl⟩ := hframed.unique hframed'
    obtain ⟨rfl, rfl, rfl⟩ : _ ∧ _ ∧ _ := by simpa [parts] using hlio
    obtain ⟨hbehind, hascending⟩ := (table_parts_iff hframed).mp htable
    exact ⟨hbehind, hascending, hparts.mpr ⟨hl, hi, ho⟩⟩
  · rintro ⟨hbehind, hascending, hexact⟩
    obtain ⟨hl, hi, ho⟩ := hparts.mp hexact
    have htable := (table_parts_iff hframed).mpr ⟨hbehind, hascending⟩
    exact serialize_eq_ok_iff.mpr ⟨_, _, _, hl, hi, ho, htable⟩

theorem faults_deserialize (data : Bytes) : Faults (fun e => e = .tooShort ∨
    (∃ size, e = .tableSize size data.length) ∨ ∃ count, e = .witnessFields count) (deserialize data) := by
  have hfields : Faults (fun e => e = .tooShort ∨ (∃ size, e = .tableSize size data.length) ∨
      ∃ count, e = .witnessFields count) (fields data) := fun e h => (faults_fields data e h).imp_right .inl
  have hpart : ∀ raw, Faults (fun e => e = .tooShort ∨ (∃ size, e = .tableSize size data.length) ∨
      ∃ count, e = .witnessFields count) (readPart raw) := fun raw e h => .inl (faults_readPart raw e h)
  refine hfields.bind fun items => ?_
  split
  · exact (hpart _).bind fun _ => (hpart _).bind fun _ => (hpart _).bind fun _ => faults_pure _
  · exact faults_throw (.inr (.inr ⟨_, rfl⟩))

/-- **What is read is written as it was exactly if it is strict.**  A byte string is read as a witness exactly if its
size stands in front, its first offset is that of three parts, and each part is empty or has room for a length; anything
else fails.  What is read of it is written as these bytes exactly if the parts moreover begin behind the offsets and
follow each other up to the end, and each has the length that stands in front of it.  The byte strings that are written
of some witness are exactly those that are read and strict. -/
theorem strict_iff (data : Bytes) :
    (∀ w a b c, deserialize data = .ok w → Framed data a b c → (w.serialize = .ok data ↔ Strict data a b c)) ∧
      ((∃ w : Witness, w.serialize = .ok data) ↔
        (∃ w, deserialize data = .ok w) ∧ ∃ a b c, Framed data a b c ∧ Strict data a b c) ∧
      ((∃ w, deserialize data = .ok w) ↔
        ∃ a b c, Framed data a b c ∧ ∀ raw ∈ parts data a b c, raw = [] ∨ 4 ≤ raw.length) ∧
      Faults (fun e => e = .tooShort ∨ (∃ size, e = .tableSize size data.length) ∨ ∃ count, e = .witnessFields count)
        (deserialize data) := by
  refine ⟨fun w a b c h hframed => serialize_iff_strict h hframed, ?_, exists_deserialize_iff, faults_deserialize data⟩
  constructor
  · rintro ⟨w, hw⟩
    have hread := deserialize_serialize hw
    obtain ⟨a, b, c, hframed, -⟩ := deserialize_eq_ok_iff.mp hread
    exact ⟨⟨w, hread⟩, a, b, c, hframed, (serialize_iff_strict hread hframed).mp hw⟩
  · rintro ⟨⟨w, hread⟩, a, b, c, hframed, hstrict⟩
    exact ⟨w, (serialize_iff_strict hread hframed).mpr hstrict⟩

theorem strict_iff_sample :
    let data : Bytes := [25, 0, 0, 0, 16, 0, 0, 0, 20, 0, 0, 0, 20, 0, 0, 0, 0, 0, 0, 0, 1, 0, 0, 0, 7]
    deserialize data = .ok ⟨some [], none, some [7]⟩ ∧ Framed data 16 20 20 ∧ Strict data 16 20 20 := by
  intro data
  have hread : deserialize data = .ok ⟨some [], none, some [7]⟩ := by decide
  have hframed : Framed data 16 20 20 := ⟨by decide, by decide, by decide, by decide, by decide⟩
  have hwritten : Witness.serialize ⟨some [], none, some [7]⟩ = .ok data := by decide
  exact ⟨hread, hframed, ((strict_iff data).1 _ _ _ _ hread hframed).mp hwritten⟩

/-! ### What is read though nothing is written so -/

namespace Sample

/-- A lock of one byte, in front of which a length of five stands. -/
def overlong : Bytes := [21, 0, 0, 0, 16, 0, 0, 0, 21, 0, 0, 0, 21, 0, 0, 0, 5, 0, 0, 0, 7]

/-- A lock of one byte, in front of which no length stands. -/
def trailing : Bytes := [21, 0, 0, 0, 16, 0, 0, 0, 21, 0, 0, 0, 21, 0, 0, 0, 0, 0, 0, 0, 7]

/-- No parts, and an offset that is above the next and above the end. -/
def disordered : Bytes := [16, 0, 0, 0, 16, 0, 0, 0, 255, 0, 0, 0, 16, 0, 0, 0]

/-- No parts, and offsets that are no multiples of four. -/
def misaligned : Bytes := [17, 0, 0, 0, 17, 0, 0, 0, 17, 0, 0, 0, 17, 0, 0, 0, 9]

end Sample

/-- What is read as a witness that is written otherwise is written of no witness. -/
theorem serialize_ne (h : deserialize data = .ok w) (hw : w.serialize ≠ .ok data) (w' : Witness) :
    w'.serialize ≠ .ok data := by
  intro hw'
  have hsame : w' = w := Except.ok.inj ((deserialize_serialize hw').symm.trans h)
  exact hw (hsame ▸ hw')

/-- **Some byte strings are read that are written of no witness**: a length in front of a part is too great or too
small, an offset is above the next one and above the end, or offsets are no multiples of four. -/
theorem read_though_unwritten :
    (deserialize Sample.overlong = .ok ⟨some [7], none, none⟩ ∧ ∀ w : Witness, w.serialize ≠ .ok Sample.overlong) ∧
      (deserialize Sample.trailing = .ok ⟨some [], none, none⟩ ∧ ∀ w : Witness, w.serialize ≠ .ok Sample.trailing) ∧
      (deserialize Sample.disordered = .ok ⟨none, none, none⟩ ∧
        ∀ w : Witness, w.serialize ≠ .ok Sample.disordered) ∧
      deserialize Sample.misaligned = .ok ⟨none, none, none⟩ ∧
        ∀ w : Witness, w.serialize ≠ .ok Sample.misaligned := by
  have hoverlong : deserialize Sample.overlong = .ok ⟨some [7], none, none⟩ := by decide
  have htrailing : deserialize Sample.trailing = .ok ⟨some [], none, none⟩ := by decide
  have hdisordered : deserialize Sample.disordered = .ok ⟨none, none, none⟩ := by decide
  have hmisaligned : deserialize Sample.misaligned = .ok ⟨none, none, none⟩ := by decide
  exact ⟨⟨hoverlong, serialize_ne hoverlong (by decide)⟩, ⟨htrailing, serialize_ne htrailing (by decide)⟩,
    ⟨hdisordered, serialize_ne hdisordered (by decide)⟩, hmisaligned, serialize_ne hmisaligned (by decide)⟩

end Witness

end CellPurse

import CellPurse.Address.Regroup
import CellPurse.Bytes.Basic
import CellPurse.Proofs.Outcome
import Mathlib.Data.Fin.Basic
import Mathlib.Data.Set.List

/-!
# CellPurse.Proofs.Address.Regroup — the same bits in other groups

Groups of bits are one stream of bits (`stream`), and regrouping cuts it anew (`stream_run`): the bits that were read
are the bits of the groups that are complete and the bits that are left over.

* `convert_true_iff`: with padding the stream is filled up with fewer zeros than a group has bits;
* `convert_false_iff`: without it, as many zeros at the end as make no group are dropped, and nothing else may be left;
* `convert_true_iff_convert_false`: each of the two undoes the other;
* `leftOver`, `convert_false_eq_none_iff`: the bits behind the last complete group, and when they are refused;
* **`convertIntegers_bijective`**: the same for bytes and groups of five bits.
-/

namespace CellPurse.Regroup

/-- The `w` lowest bits of a number, high ones first. -/
def bits : Nat → Nat → List Bool
  | 0, _ => []
  | w + 1, n => n.testBit w :: bits w n

/-- The bits of groups of `w` bits. -/
def stream (w : Nat) (groups : List Nat) : List Bool := groups.flatMap (bits w)

@[simp] theorem length_bits (w n : Nat) : (bits w n).length = w := by
  induction w with
  | zero => rfl
  | succ w ih => simp [bits, ih]

@[simp] theorem stream_nil (w : Nat) : stream w [] = [] := rfl

@[simp] theorem stream_cons (w v : Nat) (r : List Nat) : stream w (v :: r) = bits w v ++ stream w r := rfl

theorem stream_append (w : Nat) (l r : List Nat) : stream w (l ++ r) = stream w l ++ stream w r := by
  simp [stream]

/-! ## Bits of numbers -/

theorem bits_add (a b n : Nat) : bits (a + b) n = bits a (n / 2 ^ b) ++ bits b n := by
  induction a with
  | zero => simp [bits]
  | succ a ih =>
    have hbit : (n / 2 ^ b).testBit a = n.testBit (a + b) := by rw [Nat.testBit_div_two_pow, Nat.add_comm]
    rw [show a + 1 + b = (a + b) + 1 by omega, bits, bits, hbit, ih, List.cons_append]

theorem bits_congr {w m n : Nat} (h : ∀ i < w, m.testBit i = n.testBit i) : bits w m = bits w n := by
  induction w with
  | zero => rfl
  | succ w ih => rw [bits, bits, h w (by omega), ih fun i hi => h i (by omega)]

theorem bits_mod {w k : Nat} (h : w ≤ k) (n : Nat) : bits w (n % 2 ^ k) = bits w n := by
  apply bits_congr
  intro i hi
  have hik : i < k := by omega
  simp [Nat.testBit_mod_two_pow, hik]

theorem testBit_eq_of_bits_eq {w m n : Nat} (h : bits w m = bits w n) : ∀ i < w, m.testBit i = n.testBit i := by
  induction w with
  | zero => intro i hi; omega
  | succ w ih =>
    rw [bits, bits] at h
    obtain ⟨hhead, htail⟩ := List.cons.inj h
    intro i hi
    by_cases hiw : i = w
    · rw [hiw, hhead]
    · exact ih htail i (by omega)

theorem bits_inj {w m n : Nat} (hm : m < 2 ^ w) (hn : n < 2 ^ w) (h : bits w m = bits w n) : m = n := by
  apply Nat.eq_of_testBit_eq
  intro i
  by_cases hi : i < w
  · exact testBit_eq_of_bits_eq h i hi
  · have hpow : 2 ^ w ≤ 2 ^ i := Nat.pow_le_pow_right (by decide) (by omega)
    rw [Nat.testBit_lt_two_pow (by omega), Nat.testBit_lt_two_pow (by omega)]

theorem bits_zero (w : Nat) : bits w 0 = List.replicate w false := by
  induction w with
  | zero => rfl
  | succ w ih => rw [bits, ih, Nat.zero_testBit, List.replicate_succ]

/-- A group behind a number. -/
theorem bits_shiftLeft_or (b f acc : Nat) {v : Nat} (hv : v < 2 ^ f) :
    bits (b + f) ((acc <<< f) ||| v) = bits b acc ++ bits f v := by
  have hsum : acc <<< f ||| v = 2 ^ f * acc + v := by
    rw [← Nat.shiftLeft_add_eq_or_of_lt hv, Nat.shiftLeft_eq, Nat.mul_comm]
  have hhigh : (2 ^ f * acc + v) / 2 ^ f = acc := by
    rw [Nat.mul_add_div (Nat.two_pow_pos f), Nat.div_eq_of_lt hv, Nat.add_zero]
  have hlow : (2 ^ f * acc + v) % 2 ^ f = v := by
    rw [Nat.mul_add_mod, Nat.mod_eq_of_lt hv]
  rw [hsum, bits_add, hhigh, ← bits_mod (Nat.le_refl f) (2 ^ f * acc + v), hlow]

/-- Zeros behind a number. -/
theorem bits_shiftLeft (b k acc : Nat) : bits (b + k) (acc <<< k) = bits b acc ++ List.replicate k false := by
  have h := bits_shiftLeft_or b k acc (Nat.two_pow_pos k)
  rwa [Nat.or_zero, bits_zero] at h

/-- A stream of groups, with fewer bits behind it than a group has, can be cut in one way. -/
theorem stream_append_inj {w : Nat} {l r : List Nat} (hl : ∀ v ∈ l, v < 2 ^ w) (hr : ∀ v ∈ r, v < 2 ^ w)
    {x y : List Bool} (hx : x.length < w) (hy : y.length < w) (h : stream w l ++ x = stream w r ++ y) :
    l = r ∧ x = y := by
  induction l generalizing r with
  | nil =>
    cases r with
    | nil => exact ⟨rfl, h⟩
    | cons b r =>
      have hlen := congrArg List.length h
      simp at hlen
      omega
  | cons a l ih =>
    cases r with
    | nil =>
      have hlen := congrArg List.length h
      simp at hlen
      omega
    | cons b r =>
      rw [stream_cons, stream_cons, List.append_assoc, List.append_assoc] at h
      obtain ⟨hhead, htail⟩ := List.append_inj h (by simp)
      have hab := bits_inj (hl a List.mem_cons_self) (hr b List.mem_cons_self) hhead
      obtain ⟨hlr, hxy⟩ := ih (fun v hv => hl v (List.mem_cons_of_mem a hv))
        (fun v hv => hr v (List.mem_cons_of_mem b hv)) htail
      exact ⟨by rw [hab, hlr], hxy⟩

/-! ## Cutting -/

theorem lt_of_mem_groups {t acc n b g : Nat} (h : g ∈ groups t acc n b) : g < 2 ^ t := by
  induction n generalizing b with
  | zero => simp [groups] at h
  | succ n ih =>
    rw [groups] at h
    rcases List.mem_cons.mp h with rfl | h
    · exact Nat.mod_lt _ (Nat.two_pow_pos t)
    · exact ih h

theorem stream_groups {t acc n b : Nat} (h : n * t ≤ b) :
    stream t (groups t acc n b) ++ bits (b - n * t) acc = bits b acc := by
  induction n generalizing b with
  | zero => simp [groups]
  | succ n ih =>
    rw [Nat.succ_mul] at h
    have hrest : b - (n + 1) * t = b - t - n * t := by rw [Nat.succ_mul]; omega
    have hcut : bits b acc = bits t (acc / 2 ^ (b - t)) ++ bits (b - t) acc := by
      rw [← bits_add, show t + (b - t) = b by omega]
    rw [groups, stream_cons, bits_mod (Nat.le_refl t), List.append_assoc, hrest, ih (by omega), hcut]

/-- The bits that are read are those of the complete groups and those that are left over. -/
theorem stream_run {f t : Nat} (ht : 0 < t) {data : List Nat} (hd : ∀ v ∈ data, v < 2 ^ f) {acc b : Nat} (hb : b < t)
    {gs : List Nat} {last left : Nat} (h : run f t data acc b = (gs, last, left)) :
    left < t ∧ (∀ g ∈ gs, g < 2 ^ t) ∧ stream t gs ++ bits left last = bits b acc ++ stream f data := by
  induction data generalizing acc b gs last left with
  | nil =>
    cases h
    exact ⟨hb, nofun, by simp⟩
  | cons v r ih =>
    rw [run] at h
    set acc' := (acc <<< f ||| v) % 2 ^ (f + t - 1) with hacc
    rcases hrun : run f t r acc' ((b + f) % t) with ⟨gs', last', left'⟩
    simp only [hrun, Prod.mk.injEq] at h
    obtain ⟨rfl, rfl, rfl⟩ := h
    obtain ⟨hleft, hgs, hstream⟩ := ih (fun v hv => hd v (List.mem_cons_of_mem _ hv)) (Nat.mod_lt _ ht) hrun
    have hread : bits (b + f) acc' = bits b acc ++ bits f v := by
      rw [hacc, bits_mod (by omega), bits_shiftLeft_or b f acc (hd v List.mem_cons_self)]
    have hmul : (b + f) / t * t ≤ b + f := Nat.div_mul_le_self _ _
    have hrest : b + f - (b + f) / t * t = (b + f) % t := by
      have := Nat.mod_add_div' (b + f) t
      omega
    have hcut : stream t (groups t acc' ((b + f) / t) (b + f)) ++ bits ((b + f) % t) acc' = bits (b + f) acc' := by
      rw [← hrest]
      exact stream_groups hmul
    refine ⟨hleft, ?_, ?_⟩
    · intro g hg
      rcases List.mem_append.mp hg with hg | hg
      · exact lt_of_mem_groups hg
      · exact hgs g hg
    · rw [stream_append, List.append_assoc, hstream, ← List.append_assoc, hcut, hread, List.append_assoc, stream_cons]

/-! ## Conversion -/

section Convert

variable {f t : Nat} {data gs : List Nat}

/-- With padding the stream is filled up with fewer zeros than a group has bits. -/
theorem convert_true_iff (ht : 0 < t) (hd : ∀ v ∈ data, v < 2 ^ f) :
    convert f t true data = some gs ↔
      (∀ g ∈ gs, g < 2 ^ t) ∧ ∃ k < t, stream t gs = stream f data ++ List.replicate k false := by
  rcases hrun : run f t data 0 0 with ⟨gs₀, last, left⟩
  obtain ⟨hleft, hgs₀, hstream⟩ := stream_run ht hd ht hrun
  simp only [bits, List.nil_append] at hstream
  -- What is computed satisfies the right side.
  obtain ⟨out, hout, hlt, k₀, hk₀, hfill⟩ : ∃ out, convert f t true data = some out ∧ (∀ g ∈ out, g < 2 ^ t) ∧
      ∃ k < t, stream t out = stream f data ++ List.replicate k false := by
    by_cases h0 : left = 0
    · refine ⟨gs₀, by simp [convert, hrun, h0], hgs₀, 0, ht, ?_⟩
      subst h0
      simpa [bits] using hstream
    · refine ⟨gs₀ ++ [last <<< (t - left) % 2 ^ t], by simp [convert, hrun, h0], ?_, t - left, by omega, ?_⟩
      · intro g hg
        rcases List.mem_append.mp hg with hg | hg
        · exact hgs₀ g hg
        · rw [List.mem_singleton.mp hg]
          exact Nat.mod_lt _ (Nat.two_pow_pos t)
      · have hlast := bits_shiftLeft left (t - left) last
        rw [show left + (t - left) = t by omega] at hlast
        rw [stream_append, stream_cons, stream_nil, List.append_nil, bits_mod (Nat.le_refl t), hlast,
          ← List.append_assoc, hstream]
  -- And nothing else does, as a stream with fewer zeros behind it than a group has bits has one cut.
  rw [hout, Option.some.injEq]
  constructor
  · rintro rfl
    exact ⟨hlt, k₀, hk₀, hfill⟩
  · rintro ⟨hg, k, hk, hs⟩
    have heq : stream t out ++ List.replicate k false = stream t gs ++ List.replicate k₀ false := by
      rw [hfill, hs, List.append_assoc, List.append_assoc, List.replicate_append_replicate,
        List.replicate_append_replicate, Nat.add_comm]
    exact (stream_append_inj hlt hg (by simpa using hk) (by simpa using hk₀) heq).1

/-- What is left over is zero, as a group filled up with zeros, if it is zeros. -/
theorem shiftLeft_mod_eq_zero_iff {left : Nat} (hleft : left < t) (last : Nat) :
    last <<< (t - left) % 2 ^ t = 0 ↔ bits left last = List.replicate left false := by
  have hlast := bits_shiftLeft left (t - left) last
  rw [show left + (t - left) = t by omega] at hlast
  have hgroup : last <<< (t - left) % 2 ^ t < 2 ^ t := Nat.mod_lt _ (Nat.two_pow_pos t)
  have hzeros : List.replicate t false = List.replicate left false ++ List.replicate (t - left) false := by
    rw [List.replicate_append_replicate, show left + (t - left) = t by omega]
  have hbits := bits_mod (Nat.le_refl t) (last <<< (t - left))
  rw [hlast] at hbits
  constructor
  · intro h
    rw [h, bits_zero, hzeros] at hbits
    exact (List.append_inj hbits.symm (by simp)).1
  · intro h
    apply bits_inj hgroup (Nat.two_pow_pos t)
    rw [hbits, h, bits_zero, hzeros]

/-- Without padding the complete groups are given if what is left over is padding. -/
theorem convert_false_of_run {last left : Nat} (hleft : left < t) (hrun : run f t data 0 0 = (gs, last, left)) :
    convert f t false data = if left < f ∧ bits left last = List.replicate left false then some gs else none := by
  have hfault : f ≤ left ∨ last <<< (t - left) % 2 ^ t ≠ 0 ↔
      ¬ (left < f ∧ bits left last = List.replicate left false) := by
    rw [← shiftLeft_mod_eq_zero_iff hleft, not_and_or, Nat.not_lt]
  simp only [convert, hrun, Bool.false_eq_true, if_false, if_congr hfault rfl rfl, ite_not]

/-- Without padding, what is left over are zeros, fewer of them than bits in a group of either size. -/
theorem convert_false_iff (ht : 0 < t) (hd : ∀ v ∈ data, v < 2 ^ f) :
    convert f t false data = some gs ↔
      (∀ g ∈ gs, g < 2 ^ t) ∧ ∃ k < t, k < f ∧ stream f data = stream t gs ++ List.replicate k false := by
  rcases hrun : run f t data 0 0 with ⟨gs₀, last, left⟩
  obtain ⟨hleft, hgs₀, hstream⟩ := stream_run ht hd ht hrun
  simp only [bits, List.nil_append] at hstream
  rw [convert_false_of_run hleft hrun, Option.ite_none_right_eq_some, Option.some.injEq]
  constructor
  · rintro ⟨⟨hf, hbits⟩, rfl⟩
    rw [hbits] at hstream
    exact ⟨hgs₀, left, hleft, hf, hstream.symm⟩
  · rintro ⟨hg, k, hkt, hkf, hs⟩
    obtain ⟨hgs, hbits⟩ := stream_append_inj hgs₀ hg (by simpa using hleft) (by simpa using hkt) (hstream.trans hs)
    have hk : left = k := by simpa using congrArg List.length hbits
    subst hk
    exact ⟨⟨hkf, hbits⟩, hgs⟩

/-- Regrouping is undone: smaller groups that are filled up come from the larger groups that they give back. -/
theorem convert_true_iff_convert_false (ht : 0 < t) (htf : t ≤ f) (hd : ∀ v ∈ data, v < 2 ^ f)
    (hg : ∀ g ∈ gs, g < 2 ^ t) : convert f t true data = some gs ↔ convert t f false gs = some data := by
  rw [convert_true_iff ht hd, convert_false_iff (by omega) hg]
  constructor
  · rintro ⟨-, k, hk, h⟩
    exact ⟨hd, k, by omega, hk, h⟩
  · rintro ⟨-, k, -, hk, h⟩
    exact ⟨hg, k, hk, h⟩

/-! ## What is left over -/

theorem length_stream (w : Nat) (groups : List Nat) : (stream w groups).length = w * groups.length := by
  induction groups with
  | nil => rfl
  | cons v r ih => rw [stream_cons, List.length_append, length_bits, ih, List.length_cons, Nat.mul_succ, Nat.add_comm]

/-- The bits behind the last complete group of `t` bits. -/
def leftOver (f t : Nat) (data : List Nat) : List Bool := (stream f data).drop (f * data.length / t * t)

theorem leftOver_of_run (ht : 0 < t) (hd : ∀ v ∈ data, v < 2 ^ f) {last left : Nat}
    (hrun : run f t data 0 0 = (gs, last, left)) : leftOver f t data = bits left last := by
  obtain ⟨hleft, -, hstream⟩ := stream_run ht hd ht hrun
  simp only [bits, List.nil_append] at hstream
  have hlen := congrArg List.length hstream
  rw [List.length_append, length_stream, length_bits, length_stream] at hlen
  have hcomplete : f * data.length / t * t = (stream t gs).length := by
    rw [length_stream, ← hlen, Nat.mul_add_div ht, Nat.div_eq_of_lt hleft, Nat.add_zero, Nat.mul_comm]
  rw [leftOver, hcomplete, ← hstream, List.drop_left]

/-- Without padding, bits are refused as soon as they make up a group or one of them is set. -/
theorem convert_false_eq_none_iff (ht : 0 < t) (hd : ∀ v ∈ data, v < 2 ^ f) :
    convert f t false data = none ↔ f ≤ (leftOver f t data).length ∨ true ∈ leftOver f t data := by
  rcases hrun : run f t data 0 0 with ⟨gs, last, left⟩
  have hleft := (stream_run ht hd ht hrun).1
  have hzeros : bits left last = List.replicate left false ↔ true ∉ bits left last := by
    rw [List.eq_replicate_iff]
    constructor
    · rintro ⟨-, h⟩ hset
      cases h true hset
    · intro h
      refine ⟨length_bits left last, fun b hb => ?_⟩
      cases b with
      | false => rfl
      | true => exact absurd hb h
  rw [convert_false_of_run hleft hrun, leftOver_of_run ht hd hrun, length_bits, ite_eq_right_iff, hzeros]
  simp only [reduceCtorEq, imp_false, not_and_or, Nat.not_lt, not_not]

/-! ## Integers -/

/-- Of integers that are groups of `f` bits nothing is cut off. -/
theorem convertIntegers_natCast (ht : 0 < t) (hwide : f + t < widest) (hd : ∀ v ∈ data, v < 2 ^ f) (pad : Bool) :
    convertIntegers f t pad (data.map Int.ofNat) = (convert f t pad data).elim (.error .leftOver) .ok := by
  have hwidth : ∀ w : Nat, w < widest → checkWidth w = .ok () := by
    intro w hw
    unfold checkWidth
    rw [if_neg (by omega), if_neg (by omega)]
  have hkept : (f : Int) + t - 1 = (f + t - 1 : Nat) := by omega
  have hdata : ((data.map Int.ofNat).map fun v => (v % 2 ^ (f + t - 1)).toNat) = data := by
    rw [List.map_map]
    refine (List.map_congr_left fun v hv => ?_).trans (List.map_id data)
    have hlt : v < 2 ^ (f + t - 1) := Nat.lt_of_lt_of_le (hd v hv) (Nat.pow_le_pow_right (by decide) (by omega))
    have hmod : (Int.ofNat v) % 2 ^ (f + t - 1) = (v % 2 ^ (f + t - 1) : Nat) := by push_cast; rfl
    rw [Function.comp_apply, hmod, Int.toNat_natCast, Nat.mod_eq_of_lt hlt, id]
  unfold convertIntegers
  rw [hkept, hwidth t (by omega), hwidth (f + t - 1) (by omega), Outcome.ok_bind, Outcome.ok_bind,
    if_neg (Int.not_lt.mpr (Int.natCast_nonneg f)), Int.toNat_natCast, Int.toNat_natCast, Int.toNat_natCast, hdata]
  cases convert f t pad data with
  | none => rfl
  | some gs => rfl

end Convert

/-! ## Bytes and groups of five bits -/

theorem lt_of_mem_map_toNat {b : Bytes} {v : Nat} (h : v ∈ b.map UInt8.toNat) : v < 2 ^ 8 := by
  obtain ⟨d, -, rfl⟩ := List.mem_map.mp h
  exact d.toNat_lt

theorem exists_bytes {gs : List Nat} (h : ∀ g ∈ gs, g < 2 ^ 8) : ∃ b : Bytes, gs = b.map UInt8.toNat := by
  refine ⟨gs.map UInt8.ofNat, ?_⟩
  rw [List.map_map]
  exact (List.map_id gs).symm.trans (List.map_congr_left fun g hg => (UInt8.toNat_ofNat_of_lt' (h g hg)).symm)

theorem lt_of_mem_map_val {gs : List (Fin 32)} {v : Nat} (h : v ∈ gs.map Fin.val) : v < 2 ^ 5 := by
  obtain ⟨g, -, rfl⟩ := List.mem_map.mp h
  exact g.isLt

/-- **Regrouping is a bijection onto what it accepts.**  Bytes are read back from their groups of five bits.  Groups of
five bits either are no bytes, which is told as a bad address, or the groups of the bytes that they are read as; and
they are no bytes exactly if five bits or more, or a bit that is set, are left over. -/
theorem convertIntegers_bijective :
    (∀ b : Bytes, ∃ gs : List (Fin 32),
      convertIntegers 8 5 true ((b.map UInt8.toNat).map Int.ofNat) = .ok (gs.map Fin.val) ∧
      convertIntegers 5 8 false ((gs.map Fin.val).map Int.ofNat) = .ok (b.map UInt8.toNat)) ∧
    ∀ gs : List (Fin 32),
      ((∃ b : Bytes, convertIntegers 5 8 false ((gs.map Fin.val).map Int.ofNat) = .ok (b.map UInt8.toNat) ∧
          convertIntegers 8 5 true ((b.map UInt8.toNat).map Int.ofNat) = .ok (gs.map Fin.val)) ∨
        ∃ f, convertIntegers 5 8 false ((gs.map Fin.val).map Int.ofNat) = .error f ∧ Fault.kind f = .address) ∧
      ((∃ f, convertIntegers 5 8 false ((gs.map Fin.val).map Int.ofNat) = .error f) ↔
        5 ≤ (leftOver 5 8 (gs.map Fin.val)).length ∨ true ∈ leftOver 5 8 (gs.map Fin.val)) := by
  have hwrite : ∀ b : Bytes, convertIntegers 8 5 true ((b.map UInt8.toNat).map Int.ofNat) =
      (convert 8 5 true (b.map UInt8.toNat)).elim (.error .leftOver) .ok := fun b =>
    convertIntegers_natCast (by decide) (by decide) (fun _ => lt_of_mem_map_toNat) true
  have hread : ∀ gs : List (Fin 32), convertIntegers 5 8 false ((gs.map Fin.val).map Int.ofNat) =
      (convert 5 8 false (gs.map Fin.val)).elim (.error .leftOver) .ok := fun gs =>
    convertIntegers_natCast (by decide) (by decide) (fun _ => lt_of_mem_map_val) false
  have hround : ∀ (b : Bytes) (gs : List (Fin 32)), convert 8 5 true (b.map UInt8.toNat) = some (gs.map Fin.val) ↔
      convert 5 8 false (gs.map Fin.val) = some (b.map UInt8.toNat) := fun b gs =>
    convert_true_iff_convert_false (by decide) (by decide) (fun _ => lt_of_mem_map_toNat) fun _ => lt_of_mem_map_val
  constructor
  · intro b
    obtain ⟨gs, hgs⟩ : ∃ gs, convert 8 5 true (b.map UInt8.toNat) = some gs := ⟨_, rfl⟩
    have hlt : ∀ g ∈ gs, g < 32 := ((convert_true_iff (by decide) fun _ => lt_of_mem_map_toNat).mp hgs).1
    lift gs to List (Fin 32) using hlt
    exact ⟨gs, by rw [hwrite, hgs]; rfl, by rw [hread, (hround b gs).mp hgs]; rfl⟩
  · intro gs
    have hnone : convert 5 8 false (gs.map Fin.val) = none ↔
        5 ≤ (leftOver 5 8 (gs.map Fin.val)).length ∨ true ∈ leftOver 5 8 (gs.map Fin.val) :=
      convert_false_eq_none_iff (by decide) fun _ => lt_of_mem_map_val
    rw [← hnone, hread]
    cases hout : convert 5 8 false (gs.map Fin.val) with
    | none => exact ⟨.inr ⟨.leftOver, rfl, rfl⟩, fun _ => rfl, fun _ => ⟨.leftOver, rfl⟩⟩
    | some out =>
      obtain ⟨b, rfl⟩ := exists_bytes ((convert_false_iff (by decide) fun _ => lt_of_mem_map_val).mp hout).1
      refine ⟨.inl ⟨b, rfl, ?_⟩, nofun, nofun⟩
      rw [hwrite, (hround b gs).mpr hout]
      rfl

end CellPurse.Regroup

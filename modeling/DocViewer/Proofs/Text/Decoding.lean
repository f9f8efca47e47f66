import DocViewer.Text.Utf8
import Mathlib.Algebra.Group.Nat.Defs
import Mathlib.Tactic.SplitIfs

/-!
# Decoding in parts

- A byte below 0x80 is its character wherever it stands: it ends the sequence before it, and what follows is read by
  itself (`decodeLossy_append_ascii`). No other bytes give such a character (`decodeLossy_wide`), so every stretch of
  such characters in a decoded text stands in the bytes (`decodeLossy_eq_append`).
- What was encoded is decoded to itself (`decodeLossy_encode`).

The sequences that the decoder meets are `Sequence.Sound`: they lead to code points of characters, from U+0080 on.
-/

namespace DocViewer

/-! ## The decoder -/

namespace Sequence

/-- The least code point that the sequence can lead to. -/
def least (s : Sequence) : Nat := (s.bits * 64 + s.low.toNat % 64) * 64 ^ (s.missing - 1)

/-- The greatest code point that the sequence can lead to. -/
def greatest (s : Sequence) : Nat := (s.bits * 64 + s.high.toNat % 64 + 1) * 64 ^ (s.missing - 1) - 1

/-- Every way to end the sequence gives a character that takes more than one byte. -/
structure Sound (s : Sequence) : Prop where
  missing : s.missing = 1 ∨ s.missing = 2 ∨ s.missing = 3
  low : 0x80 ≤ s.low.toNat
  high : s.high.toNat ≤ 0xbf
  wide : 0x80 ≤ s.least
  valid : s.greatest < 0xd800 ∨ 0xe000 ≤ s.least ∧ s.greatest < 0x110000

end Sequence

/-- A code point of a character is that of its character. -/
theorem toNat_ofNat_of_valid {n : Nat} (h : n.isValidChar) : (Char.ofNat n).toNat = n := by
  rw [Char.ofNat, dif_pos h]
  rfl

namespace Decoder

/-- The low bits of a byte. -/
theorem toNat_and_mask (b mask : UInt8) (k : Nat) (h : mask.toNat = 2 ^ k - 1) :
    (b &&& mask).toNat = b.toNat % 2 ^ k := by
  rw [UInt8.toNat_and, h, Nat.and_two_pow_sub_one_eq_mod]

/-- A byte begins only sound sequences. -/
theorem sequence?_sound {b : UInt8} {s : Sequence} (h : sequence? b = some s) : s.Sound := by
  simp only [sequence?, UInt8.le_iff_toNat_le, ← UInt8.toNat_inj, toNat_and_mask b 0x1f 5 rfl,
    toNat_and_mask b 0x0f 4 rfl, toNat_and_mask b 0x07 3 rfl, UInt8.reduceToNat] at h
  split_ifs at h <;> cases h <;> constructor <;> simp [Sequence.least, Sequence.greatest] <;> omega

variable {s : Sequence} {b : UInt8} {d : Decoder}

/-- The bits of a sequence with one more byte. -/
def more (s : Sequence) (b : UInt8) : Nat := s.bits * 64 + (b &&& 0x3f).toNat

/-- A byte that a sequence takes lies between its bounds in its low bits too. -/
theorem more_bounds (hs : s.Sound) (hl : s.low ≤ b) (hh : b ≤ s.high) :
    s.bits * 64 + s.low.toNat % 64 ≤ more s b ∧ more s b ≤ s.bits * 64 + s.high.toNat % 64 := by
  have hlow := hs.low
  have hhigh := hs.high
  simp only [UInt8.le_iff_toNat_le] at hl hh
  rw [more, toNat_and_mask b 0x3f 6 rfl]
  omega

/-- The last byte of a sequence gives a character beyond U+007F. -/
theorem toNat_ofNat_more (hs : s.Sound) (hm : s.missing ≤ 1) (hl : s.low ≤ b) (hh : b ≤ s.high) :
    0x80 ≤ (Char.ofNat (more s b)).toNat := by
  obtain ⟨hmin, hmax⟩ := more_bounds hs hl hh
  have hone : s.missing - 1 = 0 := by omega
  have wide := hs.wide
  have valid := hs.valid
  simp only [Sequence.least, Sequence.greatest, hone, Nat.pow_zero, Nat.mul_one, Nat.add_sub_cancel] at wide valid
  have hvalid : (more s b).isValidChar := by
    show _ < 0xd800 ∨ 0xdfff < _ ∧ _ < 0x110000
    omega
  have hval := toNat_ofNat_of_valid hvalid
  omega

/-- A byte in the middle of a sequence leaves a sound one. -/
theorem more_sound (hs : s.Sound) (hm : ¬s.missing ≤ 1) (hl : s.low ≤ b) (hh : b ≤ s.high) :
    Sequence.Sound ⟨s.missing - 1, 0x80, 0xbf, more s b⟩ := by
  obtain ⟨hmin, hmax⟩ := more_bounds hs hl hh
  obtain ⟨missing, _, _, wide, valid⟩ := hs
  have hpow : 64 ^ (s.missing - 1) = 64 * 64 ^ (s.missing - 1 - 1) := by
    rw [← Nat.pow_succ']; congr 1; omega
  have hpos : 0 < 64 ^ (s.missing - 1 - 1) := Nat.pow_pos (by omega)
  have hleast : s.least ≤ Sequence.least ⟨s.missing - 1, 0x80, 0xbf, more s b⟩ := by
    have h := Nat.mul_le_mul_right (64 ^ (s.missing - 1)) hmin
    rw [hpow] at h
    simp only [Sequence.least, hpow, UInt8.reduceToNat, Nat.reduceMod, Nat.add_zero, Nat.mul_assoc] at h ⊢
    exact h
  have hgreatest : Sequence.greatest ⟨s.missing - 1, 0x80, 0xbf, more s b⟩ ≤ s.greatest := by
    have h := Nat.mul_le_mul_right (64 ^ (s.missing - 1)) (Nat.succ_le_succ hmax)
    rw [hpow] at h
    simp only [Sequence.greatest, hpow, UInt8.reduceToNat, Nat.reduceMod] at h ⊢
    rw [show more s b * 64 + 63 + 1 = (more s b + 1) * 64 by omega, Nat.mul_assoc]
    exact Nat.sub_le_sub_right h 1
  refine ⟨?_, Nat.le_refl _, Nat.le_refl _, Nat.le_trans wide hleast, ?_⟩
  · show s.missing - 1 = 1 ∨ s.missing - 1 = 2 ∨ s.missing - 1 = 3
    omega
  · omega

/-- Every sequence that the decoder is in is sound. -/
def Sound (d : Decoder) : Prop := ∀ s, d.sequence = some s → s.Sound

theorem first_sound (text : Text) (b : UInt8) : (first text b).Sound := by
  intro s hs
  unfold first at hs
  split at hs
  · cases hs
  · cases h : sequence? b with
    | none => rw [h] at hs; cases hs
    | some s' =>
      rw [h] at hs
      cases hs
      exact sequence?_sound h

theorem step_sound (hd : d.Sound) (b : UInt8) : (d.step b).Sound := by
  unfold step
  cases hs : d.sequence with
  | none => exact first_sound _ b
  | some s =>
    simp only
    split_ifs with hr hm
    · intro s' h; cases h
    · intro s' h; cases h; exact more_sound (hd s hs) hm hr.1 hr.2
    · exact first_sound _ b

theorem run_sound (hd : d.Sound) (bytes : Bytes) : (bytes.foldl step d).Sound := by
  induction bytes generalizing d with
  | nil => exact hd
  | cons b bytes ih => exact ih (step_sound hd b)

theorem start_sound : start.Sound := fun _ h => by cases h

/-- A byte below 0x80 ends the sequence before it and is its character. -/
theorem step_ascii (hd : d.Sound) (hb : b < 0x80) : d.step b = ⟨Char.ofNat b.toNat :: d.finish.reverse, none⟩ := by
  obtain ⟨text, sequence⟩ := d
  cases sequence with
  | none => simp [step, first, hb, finish]
  | some s =>
    have hlow := (hd s rfl).low
    have hr : ¬(s.low ≤ b ∧ b ≤ s.high) := by
      simp only [UInt8.le_iff_toNat_le, UInt8.lt_iff_toNat_lt, UInt8.reduceToNat] at hb ⊢
      omega
    simp [step, hr, first, hb, finish]

/-- Other bytes add only characters beyond U+007F. -/
theorem step_wide (hd : d.Sound) (hb : ¬b < 0x80) :
    ∃ new, (d.step b).text = new ++ d.text ∧ ∀ c ∈ new, 0x80 ≤ c.toNat := by
  have hfirst : ∀ text, ∃ new, (first text b).text = new ++ text ∧ ∀ c ∈ new, 0x80 ≤ c.toNat := by
    intro text
    rw [first, if_neg hb]
    cases sequence? b with
    | none => exact ⟨[replacement], rfl, by simp [replacement]⟩
    | some s => exact ⟨[], rfl, by simp⟩
  unfold step
  cases hs : d.sequence with
  | none => exact hfirst d.text
  | some s =>
    simp only
    split_ifs with hr hm
    · exact ⟨[Char.ofNat (more s b)], rfl, by simpa using toNat_ofNat_more (hd s hs) hm hr.1 hr.2⟩
    · exact ⟨[], rfl, by simp⟩
    · obtain ⟨new, hn, hw⟩ := hfirst (replacement :: d.text)
      refine ⟨new ++ [replacement], by rw [hn]; simp, ?_⟩
      intro c hc
      rcases List.mem_append.mp hc with hc | hc
      · exact hw c hc
      · rw [List.mem_singleton] at hc
        subst hc
        decide

/-- A run on other bytes adds only characters beyond U+007F. -/
theorem run_wide (hd : d.Sound) {bytes : Bytes} (hb : ∀ b ∈ bytes, ¬b < 0x80) :
    ∃ new, (bytes.foldl step d).text = new ++ d.text ∧ ∀ c ∈ new, 0x80 ≤ c.toNat := by
  induction bytes generalizing d with
  | nil => exact ⟨[], rfl, by simp⟩
  | cons b bytes ih =>
    obtain ⟨new, hn, hw⟩ := step_wide hd (hb b List.mem_cons_self)
    obtain ⟨new', hn', hw'⟩ := ih (step_sound hd b) fun c hc => hb c (List.mem_cons_of_mem b hc)
    refine ⟨new' ++ new, by rw [List.foldl_cons, hn', hn, List.append_assoc], ?_⟩
    intro c hc
    rcases List.mem_append.mp hc with hc | hc
    · exact hw' c hc
    · exact hw c hc

/-! ### What stands before is never read again -/

theorem first_append (text before : Text) (b : UInt8) :
    first (text ++ before) b = ⟨(first text b).text ++ before, (first text b).sequence⟩ := by
  unfold first
  split_ifs
  · rfl
  · cases sequence? b <;> rfl

theorem step_append (text before : Text) (sequence : Option Sequence) (b : UInt8) :
    step ⟨text ++ before, sequence⟩ b =
      ⟨(step ⟨text, sequence⟩ b).text ++ before, (step ⟨text, sequence⟩ b).sequence⟩ := by
  cases sequence with
  | none => exact first_append text before b
  | some s =>
    simp only [step]
    split_ifs
    · rfl
    · rfl
    · exact first_append (replacement :: text) before b

theorem run_append (text before : Text) (sequence : Option Sequence) (bytes : Bytes) :
    bytes.foldl step ⟨text ++ before, sequence⟩ =
      ⟨(bytes.foldl step ⟨text, sequence⟩).text ++ before, (bytes.foldl step ⟨text, sequence⟩).sequence⟩ := by
  induction bytes generalizing text sequence with
  | nil => rfl
  | cons b bytes ih => rw [List.foldl_cons, List.foldl_cons, step_append, ih]

theorem finish_append (text before : Text) (sequence : Option Sequence) :
    finish ⟨text ++ before, sequence⟩ = before.reverse ++ finish ⟨text, sequence⟩ := by
  cases sequence <;> simp [finish]

/-- Decoding goes on behind a text with what follows alone. -/
theorem finish_run (text : Text) (bytes : Bytes) :
    (bytes.foldl step ⟨text, none⟩).finish = text.reverse ++ decodeLossy bytes := by
  have h := run_append [] text none bytes
  rw [List.nil_append] at h
  rw [h, finish_append]
  rfl

end Decoder

open Decoder

/-! ## Bytes below 0x80 -/

/-- A byte below 0x80 is its character, and parts what stands before it from what follows. -/
theorem decodeLossy_append_ascii (u v : Bytes) {b : UInt8} (hb : b < 0x80) :
    decodeLossy (u ++ b :: v) = decodeLossy u ++ Char.ofNat b.toNat :: decodeLossy v := by
  rw [decodeLossy, List.foldl_append, List.foldl_cons, step_ascii (run_sound start_sound u) hb, finish_run]
  simp [decodeLossy]

/-- Bytes from 0x80 on are decoded to characters beyond U+007F. -/
theorem decodeLossy_wide {bytes : Bytes} (hb : ∀ b ∈ bytes, ¬b < 0x80) : ∀ c ∈ decodeLossy bytes, 0x80 ≤ c.toNat := by
  obtain ⟨new, hn, hw⟩ := run_wide start_sound hb
  have htext : ∀ c ∈ (bytes.foldl step start).text, 0x80 ≤ c.toNat := by
    rw [hn]
    simpa [start] using hw
  intro c hc
  rw [decodeLossy, finish, List.mem_reverse] at hc
  split_ifs at hc
  · rcases List.mem_cons.mp hc with rfl | hc
    · decide
    · exact htext c hc
  · exact htext c hc

theorem finish_step_ne_nil (d : Decoder) (b : UInt8) : (d.step b).finish ≠ [] := by
  have hfirst : ∀ text, (first text b).finish ≠ [] := by
    intro text
    unfold first
    split_ifs
    · simp [finish]
    · cases sequence? b <;> simp [finish]
  unfold step
  cases d.sequence with
  | none => exact hfirst d.text
  | some s =>
    simp only
    split_ifs
    · simp [finish]
    · simp [finish]
    · exact hfirst _

/-- Only no bytes are decoded to nothing. -/
theorem eq_nil_of_decodeLossy {bytes : Bytes} (h : decodeLossy bytes = []) : bytes = [] := by
  rcases List.eq_nil_or_concat bytes with hb | ⟨front, b, rfl⟩
  · exact hb
  · rw [decodeLossy, List.concat_eq_append, List.foldl_append] at h
    exact absurd h (finish_step_ne_nil _ b)

theorem toNat_ofNat_ascii {b : UInt8} (hb : b < 0x80) : UInt8.ofNat (Char.ofNat b.toNat).toNat = b := by
  have hlt : b.toNat < 0x80 := by simpa only [UInt8.lt_iff_toNat_lt, UInt8.reduceToNat] using hb
  rw [toNat_ofNat_of_valid (.inl (by omega)), UInt8.ofNat_toNat]

/-- A character below U+0080 in a decoded text stands in the bytes, and parts them. -/
theorem decodeLossy_eq_append_cons {bytes : Bytes} {before after : Text} {c : Char} (hc : c.toNat < 0x80)
    (h : decodeLossy bytes = before ++ c :: after) :
    ∃ u v, bytes = u ++ UInt8.ofNat c.toNat :: v ∧ decodeLossy u = before ∧ decodeLossy v = after := by
  induction hn : bytes.length using Nat.strongRecOn generalizing bytes before with
  | ind n ih =>
    subst hn
    -- the bytes are parted at the first one below 0x80
    have hsplit := List.takeWhile_append_dropWhile (p := fun b : UInt8 => !decide (b < 0x80)) (l := bytes)
    generalize hu : bytes.takeWhile (fun b : UInt8 => !decide (b < 0x80)) = u at hsplit
    have hwide : ∀ d ∈ decodeLossy u, 0x80 ≤ d.toNat := decodeLossy_wide fun b hb => by
      rw [← hu] at hb
      simpa using List.all_eq_true.mp List.all_takeWhile b hb
    cases hd : bytes.dropWhile (fun b : UInt8 => !decide (b < 0x80)) with
    | nil =>
      rw [hd, List.append_nil] at hsplit
      have := hwide c (by rw [hsplit, h]; simp)
      omega
    | cons b v =>
      have hb : b < 0x80 := by
        have := List.head_dropWhile_not (p := fun b : UInt8 => !decide (b < 0x80)) (l := bytes)
          (by rw [hd]; simp)
        simpa [hd] using this
      rw [hd] at hsplit
      subst hsplit
      rw [decodeLossy_append_ascii u v hb] at h
      have hhere : ∀ {rest : Text}, Char.ofNat b.toNat :: decodeLossy v = c :: rest →
          u ++ b :: v = u ++ UInt8.ofNat c.toNat :: v ∧ decodeLossy v = rest := by
        intro rest he
        obtain ⟨rfl, hr⟩ := List.cons.inj he
        exact ⟨by rw [toNat_ofNat_ascii hb], hr⟩
      rcases List.append_eq_append_iff.mp h with ⟨mid, hm, he⟩ | ⟨mid, hm, he⟩
      · cases mid with
        | nil =>
          obtain ⟨hbytes, hv⟩ := hhere he
          exact ⟨u, v, hbytes, by rw [hm, List.append_nil], hv⟩
        | cons m mid =>
          rw [List.cons_append] at he
          obtain ⟨rfl, hrest⟩ := List.cons.inj he
          obtain ⟨u', v', rfl, hu', hv'⟩ := ih v.length (by simp; omega) hrest rfl
          exact ⟨u ++ b :: u', v', by simp, by rw [decodeLossy_append_ascii u u' hb, hu', hm], hv'⟩
      · cases mid with
        | nil =>
          obtain ⟨hbytes, hv⟩ := hhere he.symm
          exact ⟨u, v, hbytes, by rw [hm, List.append_nil], hv⟩
        | cons m mid =>
          obtain ⟨rfl, _⟩ := List.cons.inj he
          have := hwide c (by rw [hm]; simp)
          omega

/-- The bytes of a text of characters below U+0080. -/
def asciiBytes (t : Text) : Bytes := t.map fun c => UInt8.ofNat c.toNat

theorem ofNat_toNat_ofNat {c : Char} (hc : c.toNat < 0x80) : Char.ofNat (UInt8.ofNat c.toNat).toNat = c := by
  rw [UInt8.toNat_ofNat', Nat.mod_eq_of_lt (by omega), Char.ofNat_toNat]

theorem map_ofNat_asciiBytes {t : Text} (ht : ∀ c ∈ t, c.toNat < 0x80) :
    (asciiBytes t).map (fun b => Char.ofNat b.toNat) = t := by
  rw [asciiBytes, List.map_map]
  exact (List.map_congr_left fun c hc => ofNat_toNat_ofNat (ht c hc)).trans (List.map_id' t)

/-- A stretch of characters below U+0080 in a decoded text stands in the bytes, and parts them. -/
theorem decodeLossy_eq_append {bytes : Bytes} {before t after : Text} (ht : ∀ c ∈ t, c.toNat < 0x80) (hne : t ≠ [])
    (h : decodeLossy bytes = before ++ (t ++ after)) :
    ∃ u v, bytes = u ++ (asciiBytes t ++ v) ∧ decodeLossy u = before ∧ decodeLossy v = after := by
  induction t generalizing bytes before with
  | nil => exact absurd rfl hne
  | cons c t ih =>
    obtain ⟨u, v, rfl, hu, hv⟩ := decodeLossy_eq_append_cons (ht c List.mem_cons_self) h
    by_cases hnil : t = []
    · subst hnil
      exact ⟨u, v, rfl, hu, hv⟩
    · have hrest : decodeLossy v = [] ++ (t ++ after) := hv
      obtain ⟨u', v', rfl, hu', hv'⟩ := ih (fun d hd => ht d (List.mem_cons_of_mem c hd)) hnil hrest
      rw [eq_nil_of_decodeLossy hu', List.nil_append]
      exact ⟨u, v', rfl, hu, hv'⟩

/-- The bytes of such a text are decoded to it, wherever they stand. -/
theorem decodeLossy_append_asciiBytes (u v : Bytes) {t : Text} (ht : ∀ c ∈ t, c.toNat < 0x80) (hne : t ≠ []) :
    decodeLossy (u ++ (asciiBytes t ++ v)) = decodeLossy u ++ (t ++ decodeLossy v) := by
  induction t generalizing u with
  | nil => exact absurd rfl hne
  | cons c t ih =>
    have hc := ht c List.mem_cons_self
    have hb : UInt8.ofNat c.toNat < 0x80 := by
      simp only [UInt8.lt_iff_toNat_lt, UInt8.toNat_ofNat', UInt8.reduceToNat]
      omega
    have hstep := fun w => decodeLossy_append_ascii u w hb
    rw [ofNat_toNat_ofNat hc] at hstep
    by_cases hnil : t = []
    · subst hnil
      exact hstep v
    · have h := ih [] (fun d hd => ht d (List.mem_cons_of_mem c hd)) hnil
      rw [List.nil_append] at h
      rw [asciiBytes, List.map_cons, List.cons_append, hstep]
      congr 2

/-! ## Encoded texts -/

section Encoded

variable {s : Sequence} {b : UInt8} {n : Nat}

/-- The low bits of a byte, as a remainder. -/
theorem toNat_ofNat_and_mask (hn : n < 256) {mask : UInt8} {k m : Nat} (h : mask.toNat = 2 ^ k - 1) (hm : 2 ^ k = m) :
    (UInt8.ofNat n &&& mask).toNat = n % m := by
  rw [toNat_and_mask _ mask k h, UInt8.toNat_ofNat', Nat.mod_eq_of_lt hn, hm]

theorem sequence?_two (h : 0xc2 ≤ n ∧ n ≤ 0xdf) : sequence? (UInt8.ofNat n) = some ⟨1, 0x80, 0xbf, n % 32⟩ := by
  have hn : (UInt8.ofNat n).toNat = n := by rw [UInt8.toNat_ofNat', Nat.mod_eq_of_lt (by omega)]
  have hbits : (UInt8.ofNat n &&& 0x1f).toNat = n % 32 := toNat_ofNat_and_mask (k := 5) (by omega) rfl rfl
  simp only [sequence?, UInt8.le_iff_toNat_le, hbits, hn, UInt8.reduceToNat, if_pos h]

theorem sequence?_three (h : 0xe0 ≤ n ∧ n ≤ 0xef) : sequence? (UInt8.ofNat n) =
    some ⟨2, if n = 0xe0 then 0xa0 else 0x80, if n = 0xed then 0x9f else 0xbf, n % 16⟩ := by
  by_cases hmin : n = 0xe0
  · subst hmin
    rfl
  by_cases hmax : n = 0xed
  · subst hmax
    rfl
  have hn : (UInt8.ofNat n).toNat = n := by rw [UInt8.toNat_ofNat', Nat.mod_eq_of_lt (by omega)]
  have hbits : (UInt8.ofNat n &&& 0x0f).toNat = n % 16 := toNat_ofNat_and_mask (k := 4) (by omega) rfl rfl
  simp only [sequence?, UInt8.le_iff_toNat_le, ← UInt8.toNat_inj, hbits, hn, UInt8.reduceToNat, if_neg hmin,
    if_neg hmax]
  rw [if_neg (by omega), if_pos (by omega)]

theorem sequence?_four (h : 0xf0 ≤ n ∧ n ≤ 0xf4) : sequence? (UInt8.ofNat n) =
    some ⟨3, if n = 0xf0 then 0x90 else 0x80, if n = 0xf4 then 0x8f else 0xbf, n % 8⟩ := by
  by_cases hmin : n = 0xf0
  · subst hmin
    rfl
  by_cases hmax : n = 0xf4
  · subst hmax
    rfl
  have hn : (UInt8.ofNat n).toNat = n := by rw [UInt8.toNat_ofNat', Nat.mod_eq_of_lt (by omega)]
  have hbits : (UInt8.ofNat n &&& 0x07).toNat = n % 8 := toNat_ofNat_and_mask (k := 3) (by omega) rfl rfl
  simp only [sequence?, UInt8.le_iff_toNat_le, ← UInt8.toNat_inj, hbits, hn, UInt8.reduceToNat, if_neg hmin,
    if_neg hmax]
  rw [if_neg (by omega), if_neg (by omega), if_neg (by omega), if_neg (by omega), if_pos (by omega)]

/-- The first byte of a sequence. -/
theorem step_lead (text : Text) (hn : 0x80 ≤ n ∧ n < 256) (h : sequence? (UInt8.ofNat n) = some s) :
    step ⟨text, none⟩ (UInt8.ofNat n) = ⟨text, some s⟩ := by
  have hb : ¬UInt8.ofNat n < 0x80 := by
    rw [UInt8.lt_iff_toNat_lt, UInt8.toNat_ofNat', Nat.mod_eq_of_lt hn.2]
    exact Nat.not_lt.mpr hn.1
  simp only [step, first, if_neg hb, h]

/-- A later byte of a sequence, with the six bits of it that count. -/
theorem step_tail (text : Text) (hlow : s.low.toNat ≤ n % 64 + 0x80) (hhigh : n % 64 + 0x80 ≤ s.high.toNat) :
    step ⟨text, some s⟩ (UInt8.ofNat (n % 64 + 0x80)) =
      if s.missing ≤ 1 then ⟨Char.ofNat (s.bits * 64 + n % 64) :: text, none⟩
      else ⟨text, some ⟨s.missing - 1, 0x80, 0xbf, s.bits * 64 + n % 64⟩⟩ := by
  have hn : (UInt8.ofNat (n % 64 + 0x80)).toNat = n % 64 + 0x80 := by
    rw [UInt8.toNat_ofNat', Nat.mod_eq_of_lt (by omega)]
  have hbits : (UInt8.ofNat (n % 64 + 0x80) &&& 0x3f).toNat = n % 64 := by
    rw [toNat_and_mask _ 0x3f 6 rfl, hn]
    omega
  have hr : s.low ≤ UInt8.ofNat (n % 64 + 0x80) ∧ UInt8.ofNat (n % 64 + 0x80) ≤ s.high := by
    rw [UInt8.le_iff_toNat_le, UInt8.le_iff_toNat_le, hn]
    exact ⟨hlow, hhigh⟩
  simp only [step, if_pos hr, hbits]

end Encoded

/-- The bytes of a character are decoded to it. -/
theorem run_utf8EncodeChar (text : Text) (c : Char) :
    (String.utf8EncodeChar c).foldl step ⟨text, none⟩ = ⟨c :: text, none⟩ := by
  have hvalid : c.val.toNat < 0xd800 ∨ 0xdfff < c.val.toNat ∧ c.val.toNat < 0x110000 := c.valid
  have hc : Char.ofNat c.val.toNat = c := Char.ofNat_toNat c
  unfold String.utf8EncodeChar
  generalize c.val.toNat = v at *
  subst hc
  simp only
  split_ifs with h1 h2 h3
  · have hb : UInt8.ofNat v < 0x80 := by
      rw [UInt8.lt_iff_toNat_lt, UInt8.toNat_ofNat', Nat.mod_eq_of_lt (by omega)]
      exact Nat.lt_succ_of_le h1
    rw [List.foldl_cons, List.foldl_nil, step_ascii (fun _ h => by cases h) hb, UInt8.toNat_ofNat',
      Nat.mod_eq_of_lt (by omega)]
    simp [finish]
  · rw [List.foldl_cons, step_lead text (by omega) (sequence?_two (by omega)), List.foldl_cons,
      step_tail _ (by simp) (by simp; omega), if_pos (Nat.le_refl 1), List.foldl_nil]
    congr 3
    simp only
    omega
  · rw [List.foldl_cons, step_lead text (by omega) (sequence?_three (by omega)), List.foldl_cons,
      step_tail, if_neg (by simp), List.foldl_cons, step_tail _ (by simp) (by simp; omega), if_pos (by simp),
      List.foldl_nil]
    · congr 3
      simp only
      omega
    · simp only
      split_ifs <;> simp only [UInt8.reduceToNat] <;> omega
    · simp only
      split_ifs <;> simp only [UInt8.reduceToNat] <;> omega
  · rw [List.foldl_cons, step_lead text (by omega) (sequence?_four (by omega)), List.foldl_cons,
      step_tail, if_neg (by simp), List.foldl_cons, step_tail _ (by simp) (by simp; omega), if_neg (by simp),
      List.foldl_cons, step_tail _ (by simp) (by simp; omega), if_pos (by simp), List.foldl_nil]
    · congr 3
      simp only
      omega
    · simp only
      split_ifs <;> simp only [UInt8.reduceToNat] <;> omega
    · simp only
      split_ifs <;> simp only [UInt8.reduceToNat] <;> omega

/-- **What was encoded is decoded to itself.** -/
theorem decodeLossy_encode (t : Text) : decodeLossy (encode t) = t := by
  have hrun : ∀ text, (encode t).foldl step ⟨text, none⟩ = ⟨t.reverse ++ text, none⟩ := by
    induction t with
    | nil => exact fun _ => rfl
    | cons c t ih =>
      intro text
      rw [encode, List.flatMap_cons, List.foldl_append, run_utf8EncodeChar]
      simpa [encode] using ih (c :: text)
  rw [decodeLossy, start, hrun]
  simp [finish]

theorem decode?_encode (t : Text) : decode? (encode t) = some t := by
  rw [decode?, decodeLossy_encode]
  exact if_pos rfl

/-- A byte below 0x80 is among the bytes of a text only if its character is in the text. -/
theorem mem_of_mem_encode {t : Text} {b : UInt8} (hb : b < 0x80) (h : b ∈ encode t) : Char.ofNat b.toNat ∈ t := by
  obtain ⟨u, v, huv⟩ := List.append_of_mem h
  have hdecoded := decodeLossy_append_ascii u v hb
  rw [← huv, decodeLossy_encode] at hdecoded
  rw [hdecoded]
  exact List.mem_append_right _ List.mem_cons_self

/-! ## The order of encoded texts -/

/-- Characters below U+0080 are encoded as one byte each. -/
theorem encode_eq_asciiBytes {t : Text} (ht : ∀ c ∈ t, c.toNat < 0x80) : encode t = asciiBytes t := by
  induction t with
  | nil => rfl
  | cons c t ih =>
    rw [List.forall_mem_cons] at ht
    have hc : String.utf8EncodeChar c = [UInt8.ofNat c.toNat] := by
      unfold String.utf8EncodeChar
      exact if_pos (Nat.le_of_lt_succ ht.1)
    rw [encode, List.flatMap_cons, hc, ← encode, ih ht.2]
    rfl

/-- Encoding keeps the order of texts of characters below U+0080. -/
theorem encode_lt_encode {t u : Text} (ht : ∀ c ∈ t, c.toNat < 0x80) (hu : ∀ c ∈ u, c.toNat < 0x80) (h : t < u) :
    encode t < encode u := by
  rw [encode_eq_asciiBytes ht, encode_eq_asciiBytes hu]
  induction t generalizing u with
  | nil =>
    cases u with
    | nil => exact absurd h (List.lt_irrefl [])
    | cons d u => exact List.nil_lt_cons _ _
  | cons c t ih =>
    cases u with
    | nil => exact absurd h (List.not_lt_nil _)
    | cons d u =>
      rw [List.forall_mem_cons] at ht hu
      rw [asciiBytes, asciiBytes, List.map_cons, List.map_cons, List.cons_lt_cons_iff]
      obtain hlt | ⟨rfl, hlt⟩ := List.cons_lt_cons_iff.mp h
      · have hlt : c.toNat < d.toNat := hlt
        left
        rw [UInt8.lt_iff_toNat_lt, UInt8.toNat_ofNat', UInt8.toNat_ofNat']
        omega
      · exact .inr ⟨rfl, ih ht.2 hu.2 hlt⟩

end DocViewer

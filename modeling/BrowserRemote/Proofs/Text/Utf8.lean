import BrowserRemote.Text.Utf8
import Mathlib.Algebra.Group.Nat.Defs

/-!
# Proofs/Text/Utf8 — what was written in UTF-8 is read back, and nothing else is

    c ──▸ lead, continuation, … ──▸ bits, bits · 64 + more, … ──▸ c

A character is written with a lead byte and up to three continuation bytes.  The lead byte opens it
with the bits it holds (`lead_two`, `lead_three`, `lead_four`), each continuation byte adds six bits
(`decodeFrom_continued`), and the last one completes its number (`decodeFrom_closed`).

The other way round, the bytes read since the last whole character are how every character begins
that they can still become (`Pending.Opened`).  A lead byte begins so (`opened_of_lead`), and each
continuation byte keeps it (`Pending.Opened.continued`), so what is read are the bytes of the text
that comes out (`eq_encode_of_decodeFrom`).
-/

namespace BrowserRemote.Text.Utf8

variable {offset n : Nat} {bs : List UInt8}

/-! ## The lead byte -/

/-- The lead bytes by their numbers. -/
theorem lead_ofNat (hn : n < 256) : lead offset (UInt8.ofNat n) =
    if n < 0x80 then .char (Char.ofNat n)
    else if n < 0xC2 then .invalid
    else if n < 0xE0 then .opens ⟨UInt8.ofNat n, offset, n - 0xC0, 0x80, 0xBF, 0⟩
    else if n < 0xF0 then .opens ⟨UInt8.ofNat n, offset, n - 0xE0,
      if n = 0xE0 then 0xA0 else 0x80, if n = 0xED then 0x9F else 0xBF, 1⟩
    else if n < 0xF5 then .opens ⟨UInt8.ofNat n, offset, n - 0xF0,
      if n = 0xF0 then 0x90 else 0x80, if n = 0xF4 then 0x8F else 0xBF, 2⟩
    else .invalid := by
  have hlt {m : Nat} (hm : m < 256) : UInt8.ofNat n < UInt8.ofNat m ↔ n < m :=
    UInt8.ofNat_lt_iff_lt hn hm
  have heq {m : Nat} (hm : m < 256) : UInt8.ofNat n = UInt8.ofNat m ↔ n = m := by
    rw [← UInt8.toNat_inj, UInt8.toNat_ofNat_of_lt' hn, UInt8.toNat_ofNat_of_lt' hm]
  have hchar : UInt8.ofNat n < 0x80 ↔ n < 0x80 := hlt (by decide)
  have hinvalid : UInt8.ofNat n < 0xC2 ↔ n < 0xC2 := hlt (by decide)
  have htwo : UInt8.ofNat n < 0xE0 ↔ n < 0xE0 := hlt (by decide)
  have hthree : UInt8.ofNat n < 0xF0 ↔ n < 0xF0 := hlt (by decide)
  have hfour : UInt8.ofNat n < 0xF5 ↔ n < 0xF5 := hlt (by decide)
  have hlong : UInt8.ofNat n = 0xE0 ↔ n = 0xE0 := heq (by decide)
  have hsurrogate : UInt8.ofNat n = 0xED ↔ n = 0xED := heq (by decide)
  have hlong' : UInt8.ofNat n = 0xF0 ↔ n = 0xF0 := heq (by decide)
  have hlast : UInt8.ofNat n = 0xF4 ↔ n = 0xF4 := heq (by decide)
  simp only [lead, UInt8.toNat_ofNat_of_lt' hn, hchar, hinvalid, htwo, hthree, hfour, hlong,
    hsurrogate, hlong', hlast]

theorem lead_one (h : n < 0x80) : lead offset (UInt8.ofNat n) = .char (Char.ofNat n) := by
  rw [lead_ofNat (by omega), if_pos h]

theorem lead_two (h : 0xC2 ≤ n) (h' : n < 0xE0) : lead offset (UInt8.ofNat n) =
    .opens ⟨UInt8.ofNat n, offset, n - 0xC0, 0x80, 0xBF, 0⟩ := by
  rw [lead_ofNat (by omega), if_neg (by omega), if_neg (by omega), if_pos h']

theorem lead_three (h : 0xE0 ≤ n) (h' : n < 0xF0) : lead offset (UInt8.ofNat n) =
    .opens ⟨UInt8.ofNat n, offset, n - 0xE0, if n = 0xE0 then 0xA0 else 0x80,
      if n = 0xED then 0x9F else 0xBF, 1⟩ := by
  rw [lead_ofNat (by omega), if_neg (by omega), if_neg (by omega), if_neg (by omega), if_pos h']

theorem lead_four (h : 0xF0 ≤ n) (h' : n < 0xF5) : lead offset (UInt8.ofNat n) =
    .opens ⟨UInt8.ofNat n, offset, n - 0xF0, if n = 0xF0 then 0x90 else 0x80,
      if n = 0xF4 then 0x8F else 0xBF, 2⟩ := by
  rw [lead_ofNat (by omega), if_neg (by omega), if_neg (by omega), if_neg (by omega),
    if_neg (by omega), if_pos h']

theorem decodeFrom_of_lead {p : Pending} (h : lead offset (UInt8.ofNat n) = .opens p) :
    decodeFrom offset none (UInt8.ofNat n :: bs) = decodeFrom (offset + 1) (some p) bs := by
  rw [decodeFrom, h]

/-! ## The continuation bytes -/

/-- A character goes on with a byte: the byte is in the range of its next one. -/
def Pending.Takes (p : Pending) (n : Nat) : Prop := p.low.toNat ≤ n ∧ n ≤ p.high.toNat

section Continuation

variable {p : Pending}

/-- Continuation bytes hold six bits. -/
theorem takes_any {first : UInt8} {bits more : Nat} (h : n < 64) :
    Pending.Takes ⟨first, offset, bits, 0x80, 0xBF, more⟩ (n + 128) :=
  ⟨Nat.le_add_left 128 n, Nat.lt_succ_iff.1 (Nat.add_lt_add_right h 128)⟩

theorem Pending.Takes.lt (h : p.Takes n) : n < 256 :=
  Nat.lt_of_le_of_lt h.2 p.high.toNat_lt

theorem Pending.Takes.within (h : p.Takes n) : p.low ≤ UInt8.ofNat n ∧ UInt8.ofNat n ≤ p.high := by
  rw [UInt8.le_iff_toNat_le, UInt8.le_iff_toNat_le, UInt8.toNat_ofNat_of_lt' h.lt]
  exact h

/-- The last continuation byte completes a character. -/
theorem decodeFrom_closed (hp : p.more = 0) (h : p.Takes n) :
    decodeFrom offset (some p) (UInt8.ofNat n :: bs) =
      (Char.ofNat (p.bits * 64 + (n - 0x80)) :: ·) <$> decodeFrom (offset + 1) none bs := by
  rw [decodeFrom, if_pos h.within, hp, UInt8.toNat_ofNat_of_lt' h.lt]

/-- Every other one adds its bits. -/
theorem decodeFrom_continued {more : Nat} (hp : p.more = more + 1) (h : p.Takes n) :
    decodeFrom offset (some p) (UInt8.ofNat n :: bs) =
      decodeFrom (offset + 1)
        (some ⟨p.first, p.offset, p.bits * 64 + (n - 0x80), 0x80, 0xBF, more⟩) bs := by
  rw [decodeFrom, if_pos h.within, hp, UInt8.toNat_ofNat_of_lt' h.lt]

end Continuation

/-! ## Characters and texts -/

/-- **A character is read back** from the bytes it is written with, whatever follows them. -/
theorem decodeFrom_encodeChar (offset : Nat) (c : Char) (bs : List UInt8) :
    decodeFrom offset none (String.utf8EncodeChar c ++ bs) =
      (c :: ·) <$> decodeFrom (offset + (String.utf8EncodeChar c).length) none bs := by
  have hvalid : c.toNat < 0xD800 ∨ 0xDFFF < c.toNat ∧ c.toNat < 0x110000 := c.valid
  have hnumber {n : Nat} (h : n = c.toNat) : Char.ofNat n = c := h ▸ Char.ofNat_toNat c
  rw [String.utf8EncodeChar.eq_1, Char.toNat_val]
  split
  · rw [List.singleton_append, decodeFrom, lead_one (by omega), hnumber rfl]
    rfl
  split
  · have hsix : c.toNat % 64 < 64 := Nat.mod_lt _ (by decide)
    simp only [List.cons_append, List.nil_append]
    rw [decodeFrom_of_lead (lead_two (by omega) (by omega)), decodeFrom_closed rfl (takes_any hsix),
      hnumber (by simp only []; omega)]
    rfl
  split
  · -- no overlong form and no surrogate: the second byte is in the narrower range as well
    have hsecond (first : UInt8) : Pending.Takes
        ⟨first, offset, c.toNat / 4096 % 16 + 224 - 0xE0,
          if c.toNat / 4096 % 16 + 224 = 0xE0 then 0xA0 else 0x80,
          if c.toNat / 4096 % 16 + 224 = 0xED then 0x9F else 0xBF, 1⟩
        (c.toNat / 64 % 64 + 128) := by
      constructor <;> dsimp only <;> split <;> simp <;> omega
    have hsix : c.toNat % 64 < 64 := Nat.mod_lt _ (by decide)
    simp only [List.cons_append, List.nil_append]
    rw [decodeFrom_of_lead (lead_three (by omega) (by omega)),
      decodeFrom_continued rfl (hsecond _), decodeFrom_closed rfl (takes_any hsix),
      hnumber (by simp only []; omega)]
    rfl
  · have hsecond (first : UInt8) : Pending.Takes
        ⟨first, offset, c.toNat / 262144 % 8 + 240 - 0xF0,
          if c.toNat / 262144 % 8 + 240 = 0xF0 then 0x90 else 0x80,
          if c.toNat / 262144 % 8 + 240 = 0xF4 then 0x8F else 0xBF, 2⟩
        (c.toNat / 4096 % 64 + 128) := by
      constructor <;> dsimp only <;> split <;> simp <;> omega
    have hthird : c.toNat / 64 % 64 < 64 := Nat.mod_lt _ (by decide)
    have hsix : c.toNat % 64 < 64 := Nat.mod_lt _ (by decide)
    simp only [List.cons_append, List.nil_append]
    rw [decodeFrom_of_lead (lead_four (by omega) (by omega)),
      decodeFrom_continued rfl (hsecond _), decodeFrom_continued rfl (takes_any hthird),
      decodeFrom_closed rfl (takes_any hsix), hnumber (by simp only []; omega)]
    rfl

/-- **A text is read back from the bytes it is written with.** -/
theorem decode_encode (cs : List Char) : decode (encode cs) = .ok cs := by
  suffices h : ∀ (cs : List Char) (offset : Nat), decodeFrom offset none (encode cs) = .ok cs from
    h cs 0
  intro cs
  induction cs with
  | nil => exact fun _ => by rw [encode, List.flatMap_nil, decodeFrom]
  | cons c cs ih =>
    intro offset
    rw [encode, List.flatMap_cons, decodeFrom_encodeChar, ← encode, ih]
    rfl

/-! ## The bytes of a number -/

/-- The continuation bytes of a number: its last groups of six bits, as many as there are bytes. -/
def continuations : Nat → Nat → List UInt8
  | 0, _ => []
  | count + 1, n => UInt8.ofNat (n / 64 ^ count % 64 + 128) :: continuations count n

theorem toNat_ofNat_of_isValidChar (h : n.isValidChar) : (Char.ofNat n).val.toNat = n := by
  rw [Char.ofNat, dif_pos h]
  exact UInt32.toNat_ofNatLT

theorem encodeChar_one (h : n < 0x80) : String.utf8EncodeChar (Char.ofNat n) = [UInt8.ofNat n] := by
  rw [String.utf8EncodeChar.eq_1, toNat_ofNat_of_isValidChar (Or.inl (by omega)),
    if_pos (by omega)]

theorem encodeChar_two (h : 0x80 ≤ n) (h' : n < 0x800) :
    String.utf8EncodeChar (Char.ofNat n) = UInt8.ofNat (n / 64 + 0xC0) :: continuations 1 n := by
  have hlead : n / 64 % 32 = n / 64 := Nat.mod_eq_of_lt (by omega)
  rw [String.utf8EncodeChar.eq_1, toNat_ofNat_of_isValidChar (Or.inl (by omega)),
    if_neg (by omega), if_pos (by omega), hlead]
  simp [continuations]

theorem encodeChar_three (h : 0x800 ≤ n) (h' : n < 0x10000) (hvalid : n.isValidChar) :
    String.utf8EncodeChar (Char.ofNat n)
      = UInt8.ofNat (n / 4096 + 0xE0) :: continuations 2 n := by
  have hlead : n / 4096 % 16 = n / 4096 := Nat.mod_eq_of_lt (by omega)
  rw [String.utf8EncodeChar.eq_1, toNat_ofNat_of_isValidChar hvalid,
    if_neg (by omega), if_neg (by omega), if_pos (by omega), hlead]
  simp [continuations]

theorem encodeChar_four (h : 0x10000 ≤ n) (h' : n < 0x110000) :
    String.utf8EncodeChar (Char.ofNat n)
      = UInt8.ofNat (n / 262144 + 0xF0) :: continuations 3 n := by
  have hlead : n / 262144 % 8 = n / 262144 := Nat.mod_eq_of_lt (by omega)
  rw [String.utf8EncodeChar.eq_1, toNat_ofNat_of_isValidChar (Or.inr ⟨by omega, h'⟩),
    if_neg (by omega), if_neg (by omega), if_neg (by omega), hlead]
  simp [continuations]

/-! ## What has been read of a character -/

/-- **What has been read of a character.**  Every number that starts with the bits read, and goes on
with a byte that can come next, is written with `read` first and that byte behind it. -/
structure Pending.Opened (p : Pending) (read : List UInt8) : Prop where
  low : 0x80 ≤ p.low.toNat
  high : p.high.toNat ≤ 0xBF
  writes : ∀ n, n / 64 ^ (p.more + 1) = p.bits → p.Takes (n / 64 ^ p.more % 64 + 128) →
    String.utf8EncodeChar (Char.ofNat n) = read ++ continuations (p.more + 1) n

/-- **A lead byte opens a character.** -/
theorem opened_of_lead {b : UInt8} {p : Pending} (h : lead offset b = .opens p) : p.Opened [b] := by
  have hself : UInt8.ofNat b.toNat = b := UInt8.ofNat_toNat
  rw [← hself, lead_ofNat b.toNat_lt] at h
  split at h
  · cases h
  split at h
  · cases h
  split at h
  · cases h
    refine ⟨by simp, by simp, fun n hbits htakes => ?_⟩
    have hn : n / 64 = b.toNat - 0xC0 := hbits
    rw [encodeChar_two (by omega) (by omega), hn, Nat.sub_add_cancel (by omega), hself]
    rfl
  split at h
  · cases h
    refine ⟨by dsimp only; split <;> simp, by dsimp only; split <;> simp,
      fun n hbits htakes => ?_⟩
    have hn : n / 4096 = b.toNat - 0xE0 := hbits
    obtain ⟨hlow, hhigh⟩ := htakes
    have hlong : 0x800 ≤ n := by
      dsimp only at hlow
      split at hlow <;> simp at hlow <;> omega
    have hvalid : n.isValidChar := by
      rw [Nat.isValidChar]
      dsimp only at hhigh
      split at hhigh <;> simp at hhigh <;> omega
    rw [encodeChar_three hlong (by omega) hvalid, hn, Nat.sub_add_cancel (by omega), hself]
    rfl
  split at h
  · cases h
    refine ⟨by dsimp only; split <;> simp, by dsimp only; split <;> simp,
      fun n hbits htakes => ?_⟩
    have hn : n / 262144 = b.toNat - 0xF0 := hbits
    obtain ⟨hlow, hhigh⟩ := htakes
    have hlong : 0x10000 ≤ n := by
      dsimp only at hlow
      split at hlow <;> simp at hlow <;> omega
    have hlast : n < 0x110000 := by
      dsimp only at hhigh
      split at hhigh <;> simp at hhigh <;> omega
    rw [encodeChar_four hlong hlast, hn, Nat.sub_add_cancel (by omega), hself]
    rfl
  · cases h

section Continued

variable {p : Pending} {read : List UInt8} {b : UInt8}

/-- A byte that can come next stands behind what has been read. -/
theorem Pending.Opened.writes_next (h : p.Opened read) (hb : p.low ≤ b ∧ b ≤ p.high)
    (hn : n / 64 ^ p.more = p.bits * 64 + (b.toNat - 0x80)) :
    String.utf8EncodeChar (Char.ofNat n) = read ++ b :: continuations p.more n := by
  have hlow : p.low.toNat ≤ b.toNat := UInt8.le_iff_toNat_le.1 hb.1
  have hhigh : b.toNat ≤ p.high.toNat := UInt8.le_iff_toNat_le.1 hb.2
  have hfirst : 0x80 ≤ p.low.toNat := h.low
  have hlast : p.high.toNat ≤ 0xBF := h.high
  have hbits : n / 64 ^ (p.more + 1) = p.bits := by
    rw [Nat.pow_succ, ← Nat.div_div_eq_div_mul, hn]
    omega
  have hnext : n / 64 ^ p.more % 64 + 128 = b.toNat := by
    rw [hn]
    omega
  rw [h.writes n hbits (hnext ▸ ⟨hlow, hhigh⟩), continuations, hnext, UInt8.ofNat_toNat]

/-- **A continuation byte goes on with the character**, if it is not its last one. -/
theorem Pending.Opened.continued {more : Nat} (h : p.Opened read) (hmore : p.more = more + 1)
    (hb : p.low ≤ b ∧ b ≤ p.high) :
    Pending.Opened ⟨p.first, p.offset, p.bits * 64 + (b.toNat - 0x80), 0x80, 0xBF, more⟩
      (read ++ [b]) := by
  refine ⟨by simp, by simp, fun n hbits _ => ?_⟩
  have hn : n / 64 ^ p.more = p.bits * 64 + (b.toNat - 0x80) := by
    rw [hmore]
    exact hbits
  rw [h.writes_next hb hn, hmore, List.append_assoc]
  rfl

/-- **The last continuation byte completes the character.** -/
theorem Pending.Opened.closed (h : p.Opened read) (hmore : p.more = 0)
    (hb : p.low ≤ b ∧ b ≤ p.high) :
    String.utf8EncodeChar (Char.ofNat (p.bits * 64 + (b.toNat - 0x80))) = read ++ [b] := by
  have hn : (p.bits * 64 + (b.toNat - 0x80)) / 64 ^ p.more = p.bits * 64 + (b.toNat - 0x80) := by
    rw [hmore, Nat.pow_zero, Nat.div_one]
  rw [h.writes_next hb hn, hmore]
  rfl

end Continued

/-- A byte that is a character by itself is the one that character is written with. -/
theorem encodeChar_of_lead {b : UInt8} {c : Char} (h : lead offset b = .char c) :
    String.utf8EncodeChar c = [b] := by
  have hself : UInt8.ofNat b.toNat = b := UInt8.ofNat_toNat
  rw [← hself, lead_ofNat b.toNat_lt] at h
  split at h
  · next hb =>
    cases h
    rw [encodeChar_one hb, hself]
  · repeat' split at h
    all_goals cases h

/-! ## What is read is what was written -/

/-- What has been read since the last whole character. -/
def Unfinished : Option Pending → List UInt8 → Prop
  | none, read => read = []
  | some p, read => p.Opened read

theorem cons_of_map_eq_ok {c : Char} {result : Except Malformed (List Char)} {cs : List Char}
    (h : (c :: ·) <$> result = .ok cs) : ∃ rest, result = .ok rest ∧ cs = c :: rest := by
  cases result with
  | error => cases h
  | ok rest => exact ⟨rest, rfl, (Except.ok.inj h).symm⟩

/-- **Bytes that are read as a text are the bytes of that text**, together with those that were read
since the last whole character. -/
theorem eq_encode_of_decodeFrom (state : Option Pending) :
    ∀ {read : List UInt8} {cs : List Char}, Unfinished state read →
      decodeFrom offset state bs = .ok cs → read ++ bs = encode cs := by
  fun_induction decodeFrom offset state bs with
  | case1 =>
    rintro _ _ rfl ⟨⟩
    rfl
  | case2 => nofun
  | case3 offset b bs c hlead ih =>
    rintro _ cs rfl h
    obtain ⟨rest, hrest, rfl⟩ := cons_of_map_eq_ok h
    rw [encode, List.flatMap_cons, encodeChar_of_lead hlead, ← encode, ← ih rfl hrest]
    rfl
  | case4 offset b bs p hlead ih =>
    rintro _ cs rfl h
    exact ih (opened_of_lead hlead) h
  | case5 => nofun
  | case6 offset p b bs hb bits hmore =>
    rename_i ih
    intro read cs hread h
    have hchar : String.utf8EncodeChar (Char.ofNat bits) = read ++ [b] := hread.closed hmore hb
    obtain ⟨rest, hrest, rfl⟩ := cons_of_map_eq_ok h
    rw [encode, List.flatMap_cons, hchar, ← encode, ← ih rfl hrest, List.append_assoc]
    rfl
  | case7 offset p b bs hb bits more hmore =>
    rename_i ih
    intro read cs hread h
    rw [← ih (hread.continued hmore hb) h, List.append_assoc]
    rfl
  | case8 => nofun

/-- **Exactly the bytes of a text are read as that text.** -/
theorem decode_eq_ok_iff {cs : List Char} : decode bs = .ok cs ↔ bs = encode cs := by
  constructor
  · exact eq_encode_of_decodeFrom none rfl
  · rintro rfl
    exact decode_encode cs

/-- Bytes of no text are not read. -/
theorem exists_decode_eq_error (h : ∀ cs, bs ≠ encode cs) : ∃ m, decode bs = .error m := by
  cases hbytes : decode bs with
  | ok cs => exact absurd (decode_eq_ok_iff.1 hbytes) (h cs)
  | error m => exact ⟨m, rfl⟩

end BrowserRemote.Text.Utf8

import Provision.Proofs.Text.Ascii
import Provision.Text.Utf8

/-!
# Strict reading takes UTF-8 and nothing else

What is read is what would be written as these bytes (`decodeFrom_eq_ok_iff`), so bytes can be
read exactly when they are those of some characters (`readTextChars_ok_iff`). Lenient reading
takes such bytes for the same characters.
-/

namespace Provision.Text

open String (utf8EncodeChar)

def IsUtf8 (bytes : List UInt8) : Prop := ∃ cs : List Char, bytes = cs.flatMap utf8EncodeChar

-- ---------------------------------------------------------------------------
-- The bytes of one character
-- ---------------------------------------------------------------------------

/-- The bytes that are read as one character, and the number that they give it. -/
inductive Spelled : List UInt8 → Nat → Prop
  | one {b : UInt8} (h : b.toNat < 0x80) : Spelled [b] b.toNat
  | two {b d : UInt8} (h : 0xc2 ≤ b.toNat ∧ b.toNat ≤ 0xdf) (hd : isTail d = true) :
    Spelled [b, d] ((b.toNat - 0xc0) * 64 + tailBits d)
  | three {b d e : UInt8} (h : 0xe0 ≤ b.toNat ∧ b.toNat ≤ 0xef)
    (hd : secondFits b.toNat d = true) (he : isTail e = true) :
    Spelled [b, d, e] (((b.toNat - 0xe0) * 64 + tailBits d) * 64 + tailBits e)
  | four {b d e g : UInt8} (h : 0xf0 ≤ b.toNat ∧ b.toNat ≤ 0xf4)
    (hd : secondFits b.toNat d = true) (he : isTail e = true) (hg : isTail g = true) :
    Spelled [b, d, e, g]
      ((((b.toNat - 0xf0) * 64 + tailBits d) * 64 + tailBits e) * 64 + tailBits g)

variable {b d e g : UInt8} {rest tail bytes : List UInt8} {c : Char} {cs : List Char}
  {more place n : Nat}

theorem isTail_iff : isTail b = true ↔ 0x80 ≤ b.toNat ∧ b.toNat ≤ 0xbf := by
  simp only [isTail, Bool.and_eq_true, decide_eq_true_eq]

theorem secondFits_iff : secondFits n b = true ↔ (0x80 ≤ b.toNat ∧ b.toNat ≤ 0xbf) ∧
    (n = 0xe0 → 0xa0 ≤ b.toNat) ∧ (n = 0xed → b.toNat < 0xa0) ∧
    (n = 0xf0 → 0x90 ≤ b.toNat) ∧ (n = 0xf4 → b.toNat < 0x90) := by
  simp only [secondFits, Bool.and_eq_true, Bool.not_eq_true', Bool.and_eq_false_iff,
    decide_eq_false_iff_not, isTail_iff]
  omega

theorem Spelled.isValidChar (h : Spelled bytes n) : n.isValidChar := by
  unfold Nat.isValidChar
  cases h with
  | one h => omega
  | two h hd =>
    have hd := isTail_iff.1 hd
    unfold tailBits
    omega
  | three h hd he =>
    have hd := secondFits_iff.1 hd
    have he := isTail_iff.1 he
    unfold tailBits
    omega
  | four h hd he hg =>
    have hd := secondFits_iff.1 hd
    have he := isTail_iff.1 he
    have hg := isTail_iff.1 hg
    unfold tailBits
    omega

theorem toByte_eq (h : n = b.toNat) : UInt8.ofNat n = b := by
  rw [h, UInt8.ofNat_toNat]

theorem Spelled.encode (h : Spelled bytes n) : utf8EncodeChar (Char.ofNat n) = bytes := by
  have hn : (Char.ofNat n).val.toNat = n := toNat_ofNat_of_isValidChar h.isValidChar
  unfold utf8EncodeChar
  rw [hn]
  dsimp only
  cases h with
  | one h => rw [if_pos (by omega), toByte_eq rfl]
  | @two b d h hd =>
    have hd := isTail_iff.1 hd
    unfold tailBits
    rw [if_neg (by omega), if_pos (by omega), toByte_eq (b := b) (by omega),
      toByte_eq (b := d) (by omega)]
  | @three b d e h hd he =>
    have hd := secondFits_iff.1 hd
    have he := isTail_iff.1 he
    unfold tailBits
    rw [if_neg (by omega), if_neg (by omega), if_pos (by omega), toByte_eq (b := b) (by omega),
      toByte_eq (b := d) (by omega), toByte_eq (b := e) (by omega)]
  | @four b d e g h hd he hg =>
    have hd := secondFits_iff.1 hd
    have he := isTail_iff.1 he
    have hg := isTail_iff.1 hg
    unfold tailBits
    rw [if_neg (by omega), if_neg (by omega), if_neg (by omega), toByte_eq (b := b) (by omega),
      toByte_eq (b := d) (by omega), toByte_eq (b := e) (by omega), toByte_eq (b := g) (by omega)]

theorem Spelled.of_eq {k : Nat} (h : Spelled bytes k) (hn : k = n) : Spelled bytes n := hn ▸ h

theorem spelled_encode (c : Char) : Spelled (utf8EncodeChar c) c.toNat := by
  have hv : c.toNat < 0xd800 ∨ 0xdfff < c.toNat ∧ c.toNat < 0x110000 := c.valid
  have hb (k : Nat) (h : k < 256) : (UInt8.ofNat k).toNat = k := UInt8.toNat_ofNat_of_lt' h
  have ht (k : Nat) : (UInt8.ofNat (k % 64 + 128)).toNat = k % 64 + 128 := hb _ (by omega)
  unfold utf8EncodeChar
  rw [show c.val.toNat = c.toNat from rfl]
  generalize c.toNat = n at hv
  dsimp only
  split
  · exact (Spelled.one (by rw [hb _ (by omega)]; omega)).of_eq (hb _ (by omega))
  split
  · have hl : (UInt8.ofNat (n / 64 % 32 + 192)).toNat = n / 64 % 32 + 192 := hb _ (by omega)
    refine (Spelled.two ?_ (isTail_iff.2 ?_)).of_eq ?_
    · omega
    · rw [ht]
      omega
    · unfold tailBits
      rw [ht, hl]
      omega
  split
  · have hl : (UInt8.ofNat (n / 4096 % 16 + 224)).toNat = n / 4096 % 16 + 224 := hb _ (by omega)
    refine (Spelled.three ?_ (secondFits_iff.2 ?_) (isTail_iff.2 ?_)).of_eq ?_
    · omega
    · rw [ht, hl]
      omega
    · rw [ht]
      omega
    · unfold tailBits
      rw [ht, ht, hl]
      omega
  · have hl : (UInt8.ofNat (n / 262144 % 8 + 240)).toNat = n / 262144 % 8 + 240 := hb _ (by omega)
    refine (Spelled.four ?_ (secondFits_iff.2 ?_) (isTail_iff.2 ?_) (isTail_iff.2 ?_)).of_eq ?_
    · omega
    · rw [ht, hl]
      omega
    · rw [ht]
      omega
    · rw [ht]
      omega
    · unfold tailBits
      rw [ht, ht, ht, hl]
      omega

-- ---------------------------------------------------------------------------
-- One piece, and all of them
-- ---------------------------------------------------------------------------

theorem Spelled.sequence (h : Spelled (b :: tail) n) :
    sequence b (tail ++ rest) = .char (Char.ofNat n) tail.length := by
  unfold Text.sequence
  dsimp only
  cases h with
  | one h => rw [if_pos h]; rfl
  | two h hd =>
    rw [if_neg (by omega), if_pos h]
    simp [hd]
  | three h hd he =>
    rw [if_neg (by omega), if_neg (by omega), if_pos h]
    simp [hd, he]
  | four h hd he hg =>
    rw [if_neg (by omega), if_neg (by omega), if_neg (by omega), if_pos h]
    simp [hd, he, hg]

theorem spelled_of_sequence (h : sequence b rest = .char c more) :
    ∃ tail n, Spelled (b :: tail) n ∧ c = Char.ofNat n ∧ rest = tail ++ rest.drop more := by
  revert h
  fun_cases sequence b rest
  case case1 _ hb =>
    intro h
    obtain ⟨rfl, rfl⟩ := Sequence.char.inj h
    exact ⟨[], _, .one hb, rfl, rfl⟩
  case case3 _ _ hb d rest hd =>
    intro h
    obtain ⟨rfl, rfl⟩ := Sequence.char.inj h
    exact ⟨[d], _, .two hb hd, rfl, rfl⟩
  case case8 _ _ _ hb d hd e rest he =>
    intro h
    obtain ⟨rfl, rfl⟩ := Sequence.char.inj h
    exact ⟨[d, e], _, .three hb (by simpa using hd) he, rfl, rfl⟩
  case case15 _ _ _ _ hb d hd e he g rest hg =>
    intro h
    obtain ⟨rfl, rfl⟩ := Sequence.char.inj h
    exact ⟨[d, e, g], _, .four hb (by simpa using hd) (by simpa using he) hg, rfl, rfl⟩
  all_goals exact nofun

theorem encode_of_sequence (h : sequence b rest = .char c more) :
    b :: rest = utf8EncodeChar c ++ rest.drop more := by
  obtain ⟨tail, n, hs, rfl, hr⟩ := spelled_of_sequence h
  rw [hs.encode, List.cons_append, ← hr]

theorem sequence_encode (c : Char) :
    ∃ b tail, utf8EncodeChar c = b :: tail ∧
      ∀ rest, sequence b (tail ++ rest) = .char c tail.length := by
  have hs := spelled_encode c
  cases hb : utf8EncodeChar c with
  | nil => rw [hb] at hs; cases hs
  | cons b tail =>
    rw [hb] at hs
    refine ⟨b, tail, rfl, fun rest => ?_⟩
    rw [hs.sequence, Char.ofNat_toNat]

/-- What is read is what is written as these bytes. -/
theorem decodeFrom_eq_ok_iff :
    decodeFrom place bytes = .ok cs ↔ bytes = cs.flatMap utf8EncodeChar := by
  constructor
  · -- Along the reader's own steps: it takes the bytes of one character at a time.
    intro h
    fun_induction decodeFrom place bytes generalizing cs with
    | case1 =>
      cases h
      rfl
    | case2 => cases h
    | case3 place b rest c more hs ih =>
      cases hr : decodeFrom (place + more + 1) (rest.drop more) with
      | error e =>
        rw [hr] at h
        cases h
      | ok ds =>
        rw [hr] at h
        cases h
        rw [List.flatMap_cons, ← ih hr]
        exact encode_of_sequence hs
  · rintro rfl
    induction cs generalizing place with
    | nil => rw [List.flatMap_nil, decodeFrom]
    | cons c cs ih =>
      obtain ⟨b, tail, hb, hs⟩ := sequence_encode c
      rw [List.flatMap_cons, hb, List.cons_append, decodeFrom, hs]
      dsimp only
      rw [List.drop_left, ih]
      rfl

theorem readTextChars_ok_iff : (∃ cs, readTextChars bytes = .ok cs) ↔ IsUtf8 bytes := by
  unfold readTextChars
  constructor
  · rintro ⟨cs, h⟩
    cases hd : decodeFrom 0 bytes with
    | error e =>
      rw [hd] at h
      cases h
    | ok ds => exact ⟨ds, decodeFrom_eq_ok_iff.1 hd⟩
  · rintro ⟨ds, hds⟩
    rw [decodeFrom_eq_ok_iff.2 hds]
    exact ⟨_, rfl⟩

structure Holds (P : List Char → Prop) (bytes : List UInt8) : Prop where
  utf8 : IsUtf8 bytes
  text : ∀ cs, readTextChars bytes = .ok cs → P cs

variable {P : List Char → Prop}

theorem holds_iff (h : readTextChars bytes = .ok cs) : Holds P bytes ↔ P cs := by
  constructor
  · exact fun hh => hh.text cs h
  · intro hp
    refine ⟨readTextChars_ok_iff.1 ⟨cs, h⟩, fun cs' h' => ?_⟩
    rw [h] at h'
    cases h'
    exact hp

theorem not_holds {e : BadBytes} (h : readTextChars bytes = .error e) : ¬ Holds P bytes := by
  intro hh
  obtain ⟨cs, hcs⟩ := readTextChars_ok_iff.2 hh.utf8
  rw [h] at hcs
  cases hcs

theorem readTextFile_ok {text : String} (h : readTextFile bytes = .ok text) :
    ∃ cs, readTextChars bytes = .ok cs ∧ String.ofList cs = text := by
  unfold readTextFile at h
  cases hr : readTextChars bytes with
  | error e =>
    rw [hr] at h
    cases h
  | ok cs =>
    rw [hr] at h
    cases h
    exact ⟨cs, rfl, rfl⟩

theorem readTextFile_error {e : BadBytes} (h : readTextFile bytes = .error e) :
    readTextChars bytes = .error e := by
  unfold readTextFile at h
  cases hr : readTextChars bytes with
  | error e' =>
    rw [hr] at h
    cases h
    rfl
  | ok cs =>
    rw [hr] at h
    cases h

-- ---------------------------------------------------------------------------
-- Lenient reading
-- ---------------------------------------------------------------------------

theorem decodeLenientChars_encode (cs : List Char) :
    decodeLenientChars (cs.flatMap utf8EncodeChar) = cs := by
  induction cs with
  | nil => rw [List.flatMap_nil, decodeLenientChars]
  | cons c cs ih =>
    obtain ⟨b, tail, hb, hs⟩ := sequence_encode c
    rw [List.flatMap_cons, hb, List.cons_append, decodeLenientChars, hs]
    dsimp only
    rw [List.drop_left, ih]

theorem decodeUtf8Lenient_of_ascii (h : Ascii cs) :
    decodeUtf8Lenient (cs.flatMap utf8EncodeChar) = String.ofList cs := by
  rw [decodeUtf8Lenient, decodeLenientChars_encode, ofChars_of_ascii h]

theorem decodeUtf8Lenient_nil : decodeUtf8Lenient [] = "" :=
  decodeUtf8Lenient_of_ascii ascii_nil

end Provision.Text

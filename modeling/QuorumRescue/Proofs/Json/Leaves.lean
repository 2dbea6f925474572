/-
  The leaves of a JSON text, written and read again.

  A record is only read back as it was written if all its texts and numbers are, whatever is in them.
  This file is about texts and numbers alone, and about all of them.

  1. **The marks.** A text is written character by character.  Each character leaves its mark in one of
     three ways: as its own UTF-8 bytes, as a backslash with one letter, or as a backslash with four
     hexadecimal digits.  `Escape` lists the three, with the bytes that the mark stands for, and every
     character is written as one of them (`escape_escapeChar`).

  2. **The crux** is that a mark can be read by itself.  A reader that meets a mark takes exactly the
     mark, whatever follows it (`readQuoted_escape`), and undoing the mark gives exactly its bytes
     (`unescape_escape`).  Both are about one mark in front of any rest, so that a whole text is an
     induction over its characters.

  3. **Texts.** The text between two quotes is found whole and decodes to what was written
     (`readQuoted_escaped`, `textOf_escaped`).  No code that is written is half of a pair, since control
     characters are below the halves.

  4. **Numbers.** A number is written as its decimal numeral.  It is read back whole as long as nothing
     follows it that could belong to it: another digit, a point, an exponent (`EndsNumber`,
     `readNumber_digits`).  There is no zero in front of it, which the reader would not take
     (`digits_head`).
-/
import QuorumRescue.Json.Decode
import QuorumRescue.Json.Value

namespace QuorumRescue.Json

/-! ## The marks of characters -/

/-- A byte that stands for itself between quotes. -/
def isPlainByte (b : UInt8) : Bool := b != 0x22 && b != 0x5C && 0x20 ≤ b

/-- What may stand between quotes for some bytes: the first list is the mark, the second one is what
it stands for. -/
inductive Escape : List UInt8 → List UInt8 → Prop
  | plain {bytes : List UInt8} (h : ∀ b ∈ bytes, isPlainByte b) : Escape bytes bytes
  | short {e : UInt8} (h : isShortEscape e) : Escape [0x5C, e] [shortEscape e]
  | code {a b c d : UInt8} {n : Nat} (h : hexQuad a b c d = some n) (hn : n < 0xD800) :
      Escape [0x5C, 0x75, a, b, c, d] (String.utf8EncodeChar (Char.ofNat n))

/-- The bytes of a character that is neither a control character nor special are plain. -/
theorem isPlainByte_of_mem_utf8EncodeChar {c : Char} (hq : c ≠ '"') (hb : c ≠ '\\')
    (hc : 32 ≤ c.toNat) {b : UInt8} (h : b ∈ String.utf8EncodeChar c) : isPlainByte b := by
  have hq' : c.val.toNat ≠ 34 := fun e => hq (Char.ext (UInt32.toNat_inj.1 e))
  have hb' : c.val.toNat ≠ 92 := fun e => hb (Char.ext (UInt32.toNat_inj.1 e))
  have hc' : 32 ≤ c.val.toNat := hc
  have hval : c.val.toNat < 0x110000 := by
    have := c.valid
    simp only [UInt32.isValidChar, Nat.isValidChar] at this
    omega
  -- in one byte the character is its code; of several bytes each is beyond ASCII
  have key : b.toNat ≠ 34 ∧ b.toNat ≠ 92 ∧ 32 ≤ b.toNat := by
    simp only [String.utf8EncodeChar] at h
    split at h
    · obtain rfl : b = UInt8.ofNat c.val.toNat := by simpa using h
      simp only [UInt8.toNat_ofNat']
      omega
    · split at h
      · rcases List.mem_cons.1 h with rfl | h
        · simp only [UInt8.toNat_ofNat']; omega
        · obtain rfl := List.mem_singleton.1 h
          simp only [UInt8.toNat_ofNat']; omega
      · split at h <;> simp only [List.mem_cons, List.not_mem_nil, or_false] at h
        · rcases h with rfl | rfl | rfl <;> simp only [UInt8.toNat_ofNat'] <;> omega
        · rcases h with rfl | rfl | rfl | rfl <;> simp only [UInt8.toNat_ofNat'] <;> omega
  simp only [isPlainByte, Bool.and_eq_true, bne_iff_ne, ne_eq, decide_eq_true_eq, ← UInt8.toNat_inj,
    UInt8.le_iff_toNat_le]
  exact ⟨⟨key.1, key.2.1⟩, key.2.2⟩

/-- Every character is written as one of the three marks. -/
theorem escape_escapeChar (c : Char) : Escape (escapeChar c) (String.utf8EncodeChar c) := by
  unfold escapeChar
  split
  · next h => subst h; exact .short rfl
  split
  · next h => subst h; exact .short rfl
  split
  · next h => subst h; exact .short rfl
  split
  · next h => subst h; exact .short rfl
  split
  · next h => subst h; exact .short rfl
  split
  · next h => obtain rfl : c = Char.ofNat 8 := Char.toNat_inj.1 h; exact .short rfl
  split
  · next h => obtain rfl : c = Char.ofNat 12 := Char.toNat_inj.1 h; exact .short rfl
  split
  · next h =>
    -- two zeros and the two digits of a number below thirty-two
    have hquad : ∀ n < 32, hexQuad 0x30 0x30 (UInt8.ofNat (Numeral.digitChar (n / 16)).toNat)
        (UInt8.ofNat (Numeral.digitChar (n % 16)).toNat) = some n := by decide
    have hcode := Escape.code (hquad c.toNat h) (Nat.lt_trans h (by decide))
    rw [Char.ofNat_toNat] at hcode
    exact hcode
  · next hq hb _ _ _ _ _ hc =>
    exact .plain fun b h => isPlainByte_of_mem_utf8EncodeChar hq hb (Nat.le_of_not_lt hc) h

/-! ## Finding the end of a text -/

theorem readQuoted_plain {b : UInt8} (h : isPlainByte b) (rest : List UInt8) :
    readQuoted (b :: rest) = (readQuoted rest).map fun p => (b :: p.1, p.2) := by
  simp only [isPlainByte, Bool.and_eq_true, bne_iff_ne, ne_eq, decide_eq_true_eq] at h
  obtain ⟨⟨hq, hb⟩, hc⟩ := h
  have hcond : (b == 0x5C || decide (b < 0x20)) = false := by
    simp [hb, UInt8.not_lt.2 hc]
  rw [readQuoted, hcond]
  · rfl
  · exact hq
  · rintro _ _ _ _ _ rfl; exact absurd rfl hb
  · rintro _ _ rfl; exact absurd rfl hb

/-- **The reader takes exactly the mark**, whatever follows it.  A mark has no quote in it but behind a
    backslash, so the reader does not stop inside. -/
theorem readQuoted_escape {mark bytes : List UInt8} (h : Escape mark bytes) (rest : List UInt8) :
    readQuoted (mark ++ rest) = (readQuoted rest).map fun p => (mark ++ p.1, p.2) := by
  cases h with
  | plain h =>
    induction mark with
    | nil => simp
    | cons b more ih =>
      rw [List.cons_append, readQuoted_plain (h b List.mem_cons_self),
        ih fun b hb => h b (List.mem_cons_of_mem _ hb), Option.map_map]
      rfl
  | @short e h =>
    have hu : e ≠ 0x75 := by rintro rfl; exact absurd h (by decide)
    simp only [List.cons_append, List.nil_append]
    rw [readQuoted, if_pos h]
    rintro a b c d rest' he; exact absurd he hu
  | @code a b c d n h hn =>
    have hhex : isHex a && isHex b && isHex c && isHex d := by
      simp only [hexQuad] at h
      split at h
      · next ha hb hc hd => simp [isHex, ha, hb, hc, hd]
      · cases h
    simp only [List.cons_append, List.nil_append]
    rw [readQuoted, if_pos hhex]

/-! ## Undoing the marks -/

theorem unescape_plain {b : UInt8} (h : isPlainByte b) (rest : List UInt8) :
    unescape (b :: rest) = (unescape rest).map (b :: ·) := by
  simp only [isPlainByte, Bool.and_eq_true, bne_iff_ne, ne_eq, decide_eq_true_eq] at h
  rw [unescape]
  · rintro _ _ _ _ _ _ _ _ _ rfl; exact absurd rfl h.1.2
  · rintro _ _ _ _ _ rfl; exact absurd rfl h.1.2
  · rintro _ _ rfl; exact absurd rfl h.1.2

theorem unescape_short {e : UInt8} (h : isShortEscape e) (rest : List UInt8) :
    unescape (0x5C :: e :: rest) = (unescape rest).map (shortEscape e :: ·) := by
  have hu : e ≠ 0x75 := by rintro rfl; exact absurd h (by decide)
  rw [unescape]
  · rintro _ _ _ _ _ _ _ _ _ he; exact absurd he hu
  · rintro _ _ _ _ _ he; exact absurd he hu

/-- Four digits that are none make the whole rest undecodable. -/
theorem unescape_badCode {a b c d : UInt8} (h : hexQuad a b c d = none) (rest : List UInt8) :
    unescape (0x5C :: 0x75 :: a :: b :: c :: d :: rest) = none := by
  by_cases hcode : ∃ a' b' c' d' more, rest = 0x5C :: 0x75 :: a' :: b' :: c' :: d' :: more
  · obtain ⟨a', b', c', d', more, rfl⟩ := hcode
    rw [unescape, h]
  · rw [unescape, h]
    intro a' b' c' d' more he; exact absurd ⟨a', b', c', d', more, he⟩ hcode

/-- The first half of a pair needs a second one, but a code below the halves stands alone.  The
reader looks for a second code first, so what follows has to be told apart. -/
theorem unescape_code {a b c d : UInt8} {n : Nat} (h : hexQuad a b c d = some n) (hn : n < 0xD800)
    (rest : List UInt8) :
    unescape (0x5C :: 0x75 :: a :: b :: c :: d :: rest)
      = (unescape rest).map (String.utf8EncodeChar (Char.ofNat n) ++ ·) := by
  by_cases hcode : ∃ a' b' c' d' more, rest = 0x5C :: 0x75 :: a' :: b' :: c' :: d' :: more
  · obtain ⟨a', b', c', d', more, rfl⟩ := hcode
    cases h' : hexQuad a' b' c' d' with
    | none => rw [unescape, h, h', unescape_badCode h']; rfl
    | some m => rw [unescape, h, h']; simp only [if_pos (Or.inl hn)]
  · rw [unescape, h]
    · simp only [if_pos (Or.inl hn)]
    · intro a' b' c' d' more he; exact absurd ⟨a', b', c', d', more, he⟩ hcode

/-- **A mark stands for its bytes**, whatever follows it.  Only a code among the halves of pairs would
    depend on what follows, and there is none. -/
theorem unescape_escape {mark bytes : List UInt8} (h : Escape mark bytes) (rest : List UInt8) :
    unescape (mark ++ rest) = (unescape rest).map (bytes ++ ·) := by
  cases h with
  | plain h =>
    induction mark with
    | nil => simp
    | cons b more ih =>
      rw [List.cons_append, unescape_plain (h b List.mem_cons_self),
        ih fun b hb => h b (List.mem_cons_of_mem _ hb), Option.map_map]
      rfl
  | short h => exact unescape_short h rest
  | code h hn => exact unescape_code h hn rest

/-! ## Whole texts -/

/-- What stands between the quotes of a text. -/
def escaped (text : String) : List UInt8 := text.toList.flatMap escapeChar

theorem quote_eq (text : String) : quote text = 0x22 :: (escaped text ++ [0x22]) := rfl

/-- A text is found whole, up to its closing quote. -/
theorem readQuoted_escaped (text : String) (rest : List UInt8) :
    readQuoted (escaped text ++ 0x22 :: rest) = some (escaped text, rest) := by
  unfold escaped
  induction text.toList with
  | nil => rw [List.flatMap_nil, List.nil_append, readQuoted]
  | cons c more ih =>
    rw [List.flatMap_cons, List.append_assoc, readQuoted_escape (escape_escapeChar c), ih]
    rfl

theorem unescape_escaped (text : String) :
    unescape (escaped text) = some (text.toList.flatMap String.utf8EncodeChar) := by
  unfold escaped
  induction text.toList with
  | nil => simp [unescape]
  | cons c more ih =>
    rw [List.flatMap_cons, unescape_escape (escape_escapeChar c), ih]
    rfl

/-- The bytes of a text are those of no other text. -/
theorem fromUTF8?_toUTF8 (text : String) : String.fromUTF8? text.toUTF8 = some text := by
  have hvalid : text.toUTF8.IsValidUTF8 := text.isValidUTF8
  rw [String.fromUTF8?, dif_pos hvalid]
  rfl

/-- The bytes of a text are those of its characters. -/
theorem toUTF8_eq (text : String) :
    text.toUTF8 = ⟨(text.toList.flatMap String.utf8EncodeChar).toArray⟩ := by
  show text.toByteArray = _
  rw [← String.utf8Encode_toList]
  exact ByteArray.ext (by rw [List.utf8Encode, List.data_toByteArray])

/-- **A text between quotes decodes to itself.** -/
theorem textOf_escaped (text : String) : textOf (escaped text) = some text := by
  rw [textOf, unescape_escaped, Option.bind_some, ← toUTF8_eq, fromUTF8?_toUTF8]

/-! ## Numbers -/

/-- The bytes of a decimal numeral. -/
def digits (n : Nat) : List UInt8 := ascii (Numeral.decimal n)

/-- Nothing that a number could go on with. -/
def EndsNumber (rest : List UInt8) : Prop :=
  ∀ b more, rest = b :: more → isDigit b = false ∧ b ≠ 0x2E ∧ b ≠ 0x65 ∧ b ≠ 0x45

theorem digitChar_byte {d : Nat} (h : d < 10) :
    isDigit (UInt8.ofNat (Numeral.digitChar d).toNat) = true
      ∧ Char.ofNat (UInt8.ofNat (Numeral.digitChar d).toNat).toNat = Numeral.digitChar d := by
  have all : ∀ d < 10, isDigit (UInt8.ofNat (Numeral.digitChar d).toNat) = true
      ∧ Char.ofNat (UInt8.ofNat (Numeral.digitChar d).toNat).toNat = Numeral.digitChar d := by decide
  exact all d h

theorem exists_digit_of_mem_decimal {n : Nat} {c : Char} (h : c ∈ Numeral.decimal n) :
    ∃ d < 10, c = Numeral.digitChar d := by
  induction n using Nat.strongRecOn with
  | ind n ih =>
    rw [Numeral.decimal] at h
    split at h
    · next hn => exact ⟨n, hn, List.mem_singleton.1 h⟩
    · rcases List.mem_append.1 h with h | h
      · exact ih (n / 10) (by omega) h
      · exact ⟨n % 10, Nat.mod_lt n (by decide), List.mem_singleton.1 h⟩

theorem isDigit_of_mem_digits {n : Nat} {b : UInt8} (h : b ∈ digits n) : isDigit b := by
  obtain ⟨c, hc, rfl⟩ := List.mem_map.1 h
  obtain ⟨d, hd, rfl⟩ := exists_digit_of_mem_decimal hc
  exact (digitChar_byte hd).1

theorem digits_ne_nil (n : Nat) : digits n ≠ [] := fun h =>
  Numeral.decimal_ne_nil n (List.map_eq_nil_iff.1 h)

theorem digitsValue_digits (n : Nat) : digitsValue (digits n) = some n := by
  have hback : (digits n).map (fun b => Char.ofNat b.toNat) = Numeral.decimal n := by
    unfold digits ascii
    rw [List.map_map]
    refine (List.map_congr_left fun c hc => ?_).trans (List.map_id _)
    obtain ⟨d, hd, rfl⟩ := exists_digit_of_mem_decimal hc
    exact (digitChar_byte hd).2
  rw [digitsValue, hback, Numeral.value_decimal]

/-- Between quotes a numeral needs no marks. -/
theorem escaped_toText (n : Nat) : escaped (Numeral.toText n) = digits n := by
  have hone : ∀ d < 10, escapeChar (Numeral.digitChar d)
      = [UInt8.ofNat (Numeral.digitChar d).toNat] := by decide
  have hlist : ∀ list : List Char, (∀ c ∈ list, ∃ d < 10, c = Numeral.digitChar d) →
      list.flatMap escapeChar = ascii list := by
    intro list
    induction list with
    | nil => intro _; rfl
    | cons c rest ih =>
      intro h
      obtain ⟨d, hd, rfl⟩ := h c List.mem_cons_self
      rw [List.flatMap_cons, hone d hd, ih fun x hx => h x (List.mem_cons_of_mem _ hx)]
      rfl
  rw [escaped, Numeral.toText, String.toList_ofList]
  exact hlist _ fun c hc => exists_digit_of_mem_decimal hc

/-- A numeral of more than one digit does not start with a zero. -/
theorem digits_head {n : Nat} {b c : UInt8} {more : List UInt8} (h : digits n = b :: c :: more) :
    b ≠ 0x30 := by
  induction n using Nat.strongRecOn generalizing b c more with
  | ind n ih =>
    unfold digits at h ih
    rw [Numeral.decimal] at h
    split at h
    · simp [ascii] at h
    · next hn =>
      rw [ascii, List.map_append] at h
      cases hq : ascii (Numeral.decimal (n / 10)) with
      | nil => exact absurd hq (digits_ne_nil (n / 10))
      | cons b' more' =>
        have hb : b' = b := by
          rw [← ascii, hq] at h
          exact (List.cons.inj h).1
        subst hb
        cases more' with
        | cons c' more'' => exact ih (n / 10) (by omega) hq
        | nil =>
          -- one digit is left: it is not zero, since there were two
          rw [Numeral.decimal] at hq
          split at hq
          · next hlt =>
            obtain rfl := (List.cons.inj hq).1
            have pos : ∀ d < 10, 0 < d → UInt8.ofNat (Numeral.digitChar d).toNat ≠ 0x30 := by decide
            exact pos (n / 10) hlt (by omega)
          · have := congrArg List.length hq
            simp [ascii, Numeral.decimal_ne_nil] at this

/-- A run of digits ends where the numeral ends. -/
theorem readDigits_digits (n : Nat) {rest : List UInt8} (h : EndsNumber rest) :
    readDigits (digits n ++ rest) = some (digits n, rest) := by
  have hall : ∀ b ∈ digits n, isDigit b = true := fun b hb => isDigit_of_mem_digits hb
  have htake : (digits n ++ rest).takeWhile isDigit = digits n := by
    rw [List.takeWhile_append_of_pos hall]
    cases rest with
    | nil => simp
    | cons b more => simp [(h b more rfl).1]
  have hdrop : (digits n ++ rest).dropWhile isDigit = rest := by
    rw [List.dropWhile_append_of_pos hall]
    cases rest with
    | nil => rfl
    | cons b more => simp [(h b more rfl).1]
  rw [readDigits, htake, hdrop]
  cases hd : digits n with
  | nil => exact absurd hd (digits_ne_nil n)
  | cons b more => rfl

/-- A numeral is taken whole as an integer, since no zero stands in front of it. -/
theorem readInteger_digits (n : Nat) {rest : List UInt8} (h : EndsNumber rest) :
    readInteger (digits n ++ rest) = some (digits n, rest) := by
  rw [readInteger, readDigits_digits n h]
  split
  · next b more r he =>
    obtain ⟨he, -⟩ := Prod.mk.inj (Option.some.inj he)
    exact absurd rfl (digits_head he)
  · rfl

/-- **A numeral is read back whole**, with its value, where nothing could go on with it.  A value beyond 64
    bits is read as well; what becomes of it is decided by the field that it stands in. -/
theorem readNumber_digits (n : Nat) {rest : List UInt8} (h : EndsNumber rest) :
    readNumber (digits n ++ rest) = some (some n, rest) := by
  have hneg : ((digits n ++ rest).head? == some 0x2D) = false := by
    cases hd : digits n with
    | nil => exact absurd hd (digits_ne_nil n)
    | cons b more =>
      have hb : isDigit b := isDigit_of_mem_digits (hd ▸ List.mem_cons_self)
      have hne : b ≠ 0x2D := by rintro rfl; exact absurd hb (by decide)
      simpa using hne
  have hfrac : readFraction rest = some (false, rest) := by
    unfold readFraction
    split
    · next more => exact absurd rfl (h _ more rfl).2.1
    · rfl
  have hexp : readExponent rest = some (false, rest) := by
    unfold readExponent
    split
    · next b more =>
      obtain ⟨-, -, he, hE⟩ := h b more rfl
      simp [he, hE]
    · rfl
  simp only [readNumber, hneg, readInteger_digits n h, hfrac, hexp, Bool.false_eq_true, if_false,
    Bool.or_self, digitsValue_digits]

end QuorumRescue.Json

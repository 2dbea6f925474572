/-
  Written forms of a JSON value, and reading them.

  The record of a log may have been laid out by other programs, with blanks in other places.  What it
  means must not depend on who laid it out.  A value has many written forms, and this file shows that
  they are all read alike.

  1. **The specification.** `Written` is the relation of a value to all its written forms, which differ
     in the blanks between their parts (`IsGap`).  What each of them is read as is the `draft` of the
     value.

  2. **The crux** is the shape of the relation.  It follows the reader: the text after an opening
     bracket runs up to and including the closing one, item by item.  That makes the induction one step
     of the reader at a time, mutually for values, items and members (`readValue_written`).  The reader
     takes its fuel from the length of the text, so the induction has to say how much is enough: two
     units for a byte.

  3. **The results.** From any written form the reader makes the same draft (`ofBytes_written`).  The
     two printers, the compact one and the indented one, give written forms (`written_compact`,
     `written_indented`), so that both are read as what was printed.
-/
import QuorumRescue.Proofs.Json.Leaves

namespace QuorumRescue.Json

/-! ## Drafts of values -/

mutual

/-- What every written form of a value is read as. -/
def draft : Json → Draft
  | .null => .null
  | .bool value => .bool value
  | .number n => .number (some n)
  | .text s => .text (escaped s)
  | .array items => .array (draftItems items) true
  | .object members => .object (draftMembers members) true

def draftItems : List Json → List Draft
  | [] => []
  | item :: rest => item.draft :: draftItems rest

def draftMembers : List (String × Json) → List (List UInt8 × Draft)
  | [] => []
  | (name, value) :: rest => (escaped name, value.draft) :: draftMembers rest

end

/-! ## Written forms -/

/-- Blanks between parts. -/
def IsGap (gap : List UInt8) : Prop := ∀ b ∈ gap, isBlank b = true

mutual

/-- The written forms of a value, from its first byte to its last. -/
inductive Written : Json → List UInt8 → Prop
  | null : Written .null [0x6E, 0x75, 0x6C, 0x6C]
  | true : Written (.bool true) [0x74, 0x72, 0x75, 0x65]
  | false : Written (.bool false) [0x66, 0x61, 0x6C, 0x73, 0x65]
  | number (n : Nat) : Written (.number n) (digits n)
  | text (s : String) : Written (.text s) (quote s)
  | noItems {gap : List UInt8} : IsGap gap → Written (.array []) (0x5B :: (gap ++ [0x5D]))
  | items {items : List Json} {text : List UInt8} :
      WrittenItems items text → Written (.array items) (0x5B :: text)
  | noMembers {gap : List UInt8} : IsGap gap → Written (.object []) (0x7B :: (gap ++ [0x7D]))
  | members {members : List (String × Json)} {text : List UInt8} :
      WrittenMembers members text → Written (.object members) (0x7B :: text)

/-- The items of an array, through its closing bracket. -/
inductive WrittenItems : List Json → List UInt8 → Prop
  | last {value : Json} {before text after : List UInt8} :
      IsGap before → Written value text → IsGap after →
      WrittenItems [value] (before ++ (text ++ (after ++ [0x5D])))
  | more {value : Json} {before text after : List UInt8} {rest : List Json} {tail : List UInt8} :
      IsGap before → Written value text → IsGap after → WrittenItems rest tail →
      WrittenItems (value :: rest) (before ++ (text ++ (after ++ 0x2C :: tail)))

/-- The members of an object, through its closing brace. -/
inductive WrittenMembers : List (String × Json) → List UInt8 → Prop
  | last {name : String} {value : Json} {before colon text after : List UInt8} :
      IsGap before → IsGap colon → Written value text → IsGap after →
      WrittenMembers [(name, value)]
        (before ++ (quote name ++ 0x3A :: (colon ++ (text ++ (after ++ [0x7D])))))
  | more {name : String} {value : Json} {before colon text after : List UInt8}
      {rest : List (String × Json)} {tail : List UInt8} :
      IsGap before → IsGap colon → Written value text → IsGap after → WrittenMembers rest tail →
      WrittenMembers ((name, value) :: rest)
        (before ++ (quote name ++ 0x3A :: (colon ++ (text ++ (after ++ 0x2C :: tail)))))

end

/-! ## Gaps -/

theorem dropBlanks_gap {gap : List UInt8} (h : IsGap gap) {b : UInt8} (hb : isBlank b = false)
    (rest : List UInt8) : dropBlanks (gap ++ b :: rest) = b :: rest := by
  rw [dropBlanks, List.dropWhile_append_of_pos h]
  simp [hb]

theorem dropBlanks_cons {b : UInt8} (hb : isBlank b = false) (rest : List UInt8) :
    dropBlanks (b :: rest) = b :: rest := by simp [dropBlanks, hb]

theorem isBlank_of_isDigit {b : UInt8} (h : isDigit b) : isBlank b = false := by
  cases hb : isBlank b with
  | false => rfl
  | true =>
    simp only [isBlank, Bool.or_eq_true, beq_iff_eq] at hb
    rcases hb with ((rfl | rfl) | rfl) | rfl <;> exact absurd h (by decide)

/-- A gap and a mark of the format after it end a number. -/
theorem endsNumber_gap {gap : List UInt8} (h : IsGap gap) {b : UInt8}
    (hb : isDigit b = false ∧ b ≠ 0x2E ∧ b ≠ 0x65 ∧ b ≠ 0x45) (rest : List UInt8) :
    EndsNumber (gap ++ b :: rest) := by
  intro c more he
  cases gap with
  | nil => obtain ⟨rfl, -⟩ := List.cons.inj he; exact hb
  | cons g gap =>
    obtain ⟨rfl, -⟩ := List.cons.inj he
    have hg := h g List.mem_cons_self
    simp only [isBlank, Bool.or_eq_true, beq_iff_eq] at hg
    rcases hg with ((rfl | rfl) | rfl) | rfl <;> decide

/-- A written form starts with a byte that is no blank and closes nothing. -/
theorem exists_cons_of_written {value : Json} {text : List UInt8} (h : Written value text) :
    ∃ b more, text = b :: more ∧ isBlank b = false ∧ b ≠ 0x5D := by
  cases h with
  | number n =>
    cases hd : digits n with
    | nil => exact absurd hd (digits_ne_nil n)
    | cons b more =>
      have hb := isDigit_of_mem_digits (hd ▸ List.mem_cons_self : b ∈ digits n)
      exact ⟨b, more, rfl, isBlank_of_isDigit hb, by rintro rfl; exact absurd hb (by decide)⟩
  | text s => exact ⟨_, _, quote_eq s, by decide⟩
  | _ => exact ⟨_, _, rfl, by decide⟩

/-! ## Reading -/

theorem dropBlanks_dropBlanks (bytes : List UInt8) :
    dropBlanks (dropBlanks bytes) = dropBlanks bytes := by
  induction bytes with
  | nil => rfl
  | cons b rest ih =>
    cases hb : isBlank b with
    | true => simpa [dropBlanks, hb] using ih
    | false => rw [dropBlanks_cons hb, dropBlanks_cons hb]

/-- The reader of a value passes over the blanks before it by itself. -/
theorem readValue_dropBlanks (fuel : Nat) (bytes : List UInt8) :
    readValue fuel (dropBlanks bytes) = readValue fuel bytes := by
  cases fuel with
  | zero => rfl
  | succ fuel => rw [readValue, readValue, dropBlanks_dropBlanks]

theorem readItems_dropBlanks (fuel : Nat) (bytes : List UInt8) :
    readItems fuel (dropBlanks bytes) = readItems fuel bytes := by
  cases fuel with
  | zero => rfl
  | succ fuel => rw [readItems, readItems, readValue_dropBlanks]

theorem readMembers_dropBlanks (fuel : Nat) (bytes : List UInt8) :
    readMembers fuel (dropBlanks bytes) = readMembers fuel bytes := by
  cases fuel with
  | zero => rfl
  | succ fuel => rw [readMembers, readMembers, dropBlanks_dropBlanks]

/-- The reader of a value passes over a gap before it. -/
theorem readValue_gap {gap : List UInt8} (h : IsGap gap) {value : Json} {text : List UInt8}
    (ht : Written value text) (fuel : Nat) (rest : List UInt8) :
    readValue fuel (gap ++ (text ++ rest)) = readValue fuel (text ++ rest) := by
  obtain ⟨b, more, rfl, hb, -⟩ := exists_cons_of_written ht
  rw [← readValue_dropBlanks, List.cons_append, dropBlanks_gap h hb]

/-- An array with items, as the reader meets it after the bracket. -/
theorem readValue_items {items : List Json} {text : List UInt8} (h : WrittenItems items text)
    (fuel : Nat) (rest : List UInt8) {drafts : List Draft} {closed : Bool}
    {left : Option (List UInt8)} (hr : readItems fuel (text ++ rest) = (drafts, closed, left)) :
    readValue (fuel + 1) (0x5B :: (text ++ rest)) = (.array drafts closed, left) := by
  obtain ⟨b, more, hd, hne⟩ : ∃ b more, dropBlanks (text ++ rest) = b :: more ∧ b ≠ 0x5D := by
    cases h with
    | last hbefore hvalue _ | more hbefore hvalue _ _ =>
      obtain ⟨b, more, rfl, hb, hne⟩ := exists_cons_of_written hvalue
      simp only [List.append_assoc, List.cons_append]
      exact ⟨b, _, dropBlanks_gap hbefore hb _, hne⟩
  -- the reader looks behind the blanks for a bracket that closes an empty array at once
  rw [readValue, dropBlanks_cons (by decide)]
  simp only
  rw [← readItems_dropBlanks, hd] at hr
  rw [hd]
  split
  · next he => exact absurd (List.cons.inj he).1 hne
  · rw [hr]

/-- The members of an object start with a quote. -/
theorem readValue_members {members : List (String × Json)} {text : List UInt8}
    (h : WrittenMembers members text) (fuel : Nat) (rest : List UInt8)
    {drafts : List (List UInt8 × Draft)} {closed : Bool} {left : Option (List UInt8)}
    (hr : readMembers fuel (text ++ rest) = (drafts, closed, left)) :
    readValue (fuel + 1) (0x7B :: (text ++ rest)) = (.object drafts closed, left) := by
  obtain ⟨more, hd⟩ : ∃ more, dropBlanks (text ++ rest) = 0x22 :: more := by
    cases h with
    | last hbefore _ _ _ | more hbefore _ _ _ _ =>
      simp only [List.append_assoc, quote_eq, List.cons_append]
      exact ⟨_, dropBlanks_gap hbefore (by decide) _⟩
  rw [readValue, dropBlanks_cons (by decide)]
  simp only
  rw [← readMembers_dropBlanks, hd] at hr
  rw [hd]
  split
  · next he => exact absurd (List.cons.inj he).1 (by decide)
  · rw [hr]

/-- A number, as the reader meets it. -/
theorem readValue_number (n fuel : Nat) {rest : List UInt8} (h : EndsNumber rest) :
    readValue (fuel + 1) (digits n ++ rest) = (.number (some n), some rest) := by
  have hread := readNumber_digits n h
  cases hd : digits n with
  | nil => exact absurd hd (digits_ne_nil n)
  | cons b more =>
    have hb : isDigit b := isDigit_of_mem_digits (hd ▸ List.mem_cons_self : b ∈ digits n)
    rw [hd] at hread
    have hne : ∀ c : UInt8, isDigit c = false → b ≠ c := by
      rintro c hc rfl; rw [hb] at hc; cases hc
    rw [readValue, List.cons_append, dropBlanks_cons (isBlank_of_isDigit hb)]
    split
    · next he => cases he
    · next he => exact absurd (List.cons.inj he).1 (hne _ (by decide))
    · next he => exact absurd (List.cons.inj he).1 (hne _ (by decide))
    · next he => exact absurd (List.cons.inj he).1 (hne _ (by decide))
    · next he =>
      obtain ⟨rfl, rfl⟩ := List.cons.inj he
      rw [List.cons_append] at hread
      rw [if_neg (by simpa using hne _ (by decide)), if_neg (by simpa using hne _ (by decide)),
        if_neg (by simpa using hne _ (by decide)), hread]

mutual

/-- **Every written form is read as the draft of its value**, up to its last byte.  Two units of fuel
for a byte are enough: one goes to the value that starts there, one to the list that it stands in. -/
theorem readValue_written {value : Json} {text : List UInt8} (h : Written value text) (fuel : Nat)
    (rest : List UInt8) (hfuel : 2 * text.length ≤ fuel) (hrest : EndsNumber rest) :
    readValue fuel (text ++ rest) = (value.draft, some rest) := by
  -- there is a byte at least, so there is fuel for the first step
  obtain ⟨fuel, rfl⟩ : ∃ f, fuel = f + 1 := by
    obtain ⟨b, more, rfl, -⟩ := exists_cons_of_written h
    exact ⟨fuel - 1, by simp only [List.length_cons] at hfuel; omega⟩
  cases h with
  | null => rfl
  | true => rfl
  | false => rfl
  | number n => exact readValue_number n fuel hrest
  | text s =>
    rw [quote_eq, readValue, List.cons_append, dropBlanks_cons (by decide), List.append_assoc]
    simp only [List.singleton_append, readQuoted_escaped, draft]
  | noItems hgap =>
    rw [readValue, List.cons_append, dropBlanks_cons (by decide), List.append_assoc]
    simp only [List.singleton_append, dropBlanks_gap hgap (by decide : isBlank 0x5D = Bool.false)]
    rfl
  | items hitems =>
    have hread := readItems_written hitems fuel rest (by simp only [List.length_cons] at hfuel; omega)
    exact readValue_items hitems fuel rest hread
  | noMembers hgap =>
    rw [readValue, List.cons_append, dropBlanks_cons (by decide), List.append_assoc]
    simp only [List.singleton_append, dropBlanks_gap hgap (by decide : isBlank 0x7D = Bool.false)]
    rfl
  | members hmembers =>
    have hread :=
      readMembers_written hmembers fuel rest (by simp only [List.length_cons] at hfuel; omega)
    exact readValue_members hmembers fuel rest hread

theorem readItems_written {items : List Json} {text : List UInt8} (h : WrittenItems items text)
    (fuel : Nat) (rest : List UInt8) (hfuel : 2 * text.length ≤ fuel) :
    readItems fuel (text ++ rest) = (draftItems items, Bool.true, some rest) := by
  obtain ⟨fuel, rfl⟩ : ∃ f, fuel = f + 1 := by
    cases h <;> exact ⟨fuel - 1, by simp only [List.length_append, List.length_cons] at hfuel; omega⟩
  cases h with
  | last hbefore hvalue hafter =>
    simp only [List.length_append, List.length_cons] at hfuel
    simp only [List.append_assoc, List.cons_append, List.nil_append]
    have hread := readValue_written hvalue fuel _ (by omega)
      (endsNumber_gap hafter (by decide : isDigit 0x5D = Bool.false ∧ _ ∧ _ ∧ _) rest)
    rw [readItems, readValue_gap hbefore hvalue, hread]
    simp only [dropBlanks_gap hafter (by decide : isBlank 0x5D = Bool.false)]
    rfl
  | @more _ _ _ _ _ tail hbefore hvalue hafter htail =>
    simp only [List.length_append, List.length_cons] at hfuel
    simp only [List.append_assoc, List.cons_append]
    have hread := readValue_written hvalue fuel _ (by omega)
      (endsNumber_gap hafter (by decide : isDigit 0x2C = Bool.false ∧ _ ∧ _ ∧ _) (tail ++ rest))
    have htail' := readItems_written htail fuel rest (by omega)
    rw [readItems, readValue_gap hbefore hvalue, hread]
    simp only [dropBlanks_gap hafter (by decide : isBlank 0x2C = Bool.false), htail']
    rfl

theorem readMembers_written {members : List (String × Json)} {text : List UInt8}
    (h : WrittenMembers members text) (fuel : Nat) (rest : List UInt8)
    (hfuel : 2 * text.length ≤ fuel) :
    readMembers fuel (text ++ rest) = (draftMembers members, Bool.true, some rest) := by
  obtain ⟨fuel, rfl⟩ : ∃ f, fuel = f + 1 := by
    cases h <;> exact ⟨fuel - 1, by simp only [List.length_append, List.length_cons] at hfuel; omega⟩
  cases h with
  -- the gap behind a value ends in a brace or a comma, neither of which a number could go on with
  | last hbefore hcolon hvalue hafter =>
    simp only [List.length_append, List.length_cons] at hfuel
    simp only [List.append_assoc, List.cons_append, List.nil_append, quote_eq]
    have hread := readValue_written hvalue fuel _ (by omega)
      (endsNumber_gap hafter (by decide : isDigit 0x7D = Bool.false ∧ _ ∧ _ ∧ _) rest)
    rw [readMembers, dropBlanks_gap hbefore (by decide)]
    simp only [readQuoted_escaped, dropBlanks_cons (by decide : isBlank 0x3A = Bool.false)]
    rw [readValue_gap hcolon hvalue, hread]
    simp only [dropBlanks_gap hafter (by decide : isBlank 0x7D = Bool.false)]
    rfl
  | @more _ _ _ _ _ _ _ tail hbefore hcolon hvalue hafter htail =>
    simp only [List.length_append, List.length_cons] at hfuel
    simp only [List.append_assoc, List.cons_append, List.nil_append, quote_eq]
    have hread := readValue_written hvalue fuel _ (by omega)
      (endsNumber_gap hafter (by decide : isDigit 0x2C = Bool.false ∧ _ ∧ _ ∧ _) (tail ++ rest))
    have htail' := readMembers_written htail fuel rest (by omega)
    rw [readMembers, dropBlanks_gap hbefore (by decide)]
    simp only [readQuoted_escaped, dropBlanks_cons (by decide : isBlank 0x3A = Bool.false)]
    rw [readValue_gap hcolon hvalue, hread]
    simp only [dropBlanks_gap hafter (by decide : isBlank 0x2C = Bool.false), htail']
    rfl

end

/-- A whole file that holds a written form of a value and nothing else. -/
theorem ofBytes_written {value : Json} {text : List UInt8} (h : Written value text) :
    Draft.ofBytes text = (value.draft, Bool.true) := by
  have hread := readValue_written h (2 * text.length + 2) [] (by omega) (fun _ _ he => nomatch he)
  rw [List.append_nil] at hread
  rw [Draft.ofBytes, hread]
  rfl

/-! ## The compact form -/

theorem isGap_nil : IsGap [] := fun _ h => nomatch h

mutual

/-- **The compact form is a written form**, without any gap. -/
theorem written_compact : (value : Json) → Written value value.compact
  | .null => .null
  | .bool Bool.true => .true
  | .bool Bool.false => .false
  | .number n => .number n
  | .text s => .text s
  | .array [] => .noItems isGap_nil
  | .array (item :: rest) => by
    have h := writtenItems_compact rest (written_compact item)
    rw [compact, List.append_assoc, List.append_assoc]
    exact .items h
  | .object [] => .noMembers isGap_nil
  | .object ((name, value) :: rest) => by
    have h := writtenMembers_compact rest name (written_compact value)
    simp only [compact, List.append_assoc]
    exact .members h

theorem writtenItems_compact : (items : List Json) → ∀ {first : Json} {text : List UInt8},
    Written first text → WrittenItems (first :: items) (text ++ (compactItems items ++ [0x5D]))
  | [], _, _, h => .last isGap_nil h isGap_nil
  | item :: rest, _, _, h => by
    have htail := writtenItems_compact rest (written_compact item)
    simp only [compactItems, List.append_assoc]
    exact .more isGap_nil h isGap_nil htail

theorem writtenMembers_compact : (members : List (String × Json)) → (name : String) →
    ∀ {first : Json} {text : List UInt8}, Written first text →
      WrittenMembers ((name, first) :: members)
        (quote name ++ 0x3A :: (text ++ (compactMembers members ++ [0x7D])))
  | [], _, _, _, h => .last isGap_nil isGap_nil h isGap_nil
  | (name', value) :: rest, _, _, _, h => by
    have htail := writtenMembers_compact rest name' (written_compact value)
    simp only [compactMembers, List.append_assoc]
    exact .more isGap_nil isGap_nil h isGap_nil htail

end

/-! ## The indented form -/

theorem isGap_newLine (depth : Nat) : IsGap (newLine depth) := by
  intro b hb
  rw [newLine, ascii, List.map_cons, List.map_replicate] at hb
  rcases List.mem_cons.1 hb with rfl | hb
  · decide
  · rw [List.eq_of_mem_replicate hb]; decide

/-- The blank after a colon. -/
theorem isGap_blank : IsGap [0x20] := fun b hb => by rw [List.mem_singleton.1 hb]; decide

mutual

/-- **The indented form is a written form**, at any depth. -/
theorem written_indented : (value : Json) → (depth : Nat) → Written value (value.indented depth)
  | .null, _ => .null
  | .bool Bool.true, _ => .true
  | .bool Bool.false, _ => .false
  | .number n, _ => .number n
  | .text s, _ => .text s
  | .array [], _ => .noItems isGap_nil
  | .array (item :: rest), depth => by
    have h := writtenItems_indented rest (depth + 1) (isGap_newLine depth)
      (isGap_newLine (depth + 1)) (written_indented item (depth + 1))
    simp only [indented, List.append_assoc]
    exact .items h
  | .object [], _ => .noMembers isGap_nil
  | .object ((name, value) :: rest), depth => by
    have h := writtenMembers_indented rest (depth + 1) (isGap_newLine depth)
      (isGap_newLine (depth + 1)) name (written_indented value (depth + 1))
    simp only [indented, List.append_assoc]
    exact .members h

theorem writtenItems_indented : (items : List Json) → (depth : Nat) →
    ∀ {close before : List UInt8}, IsGap close → IsGap before →
      ∀ {first : Json} {text : List UInt8}, Written first text →
        WrittenItems (first :: items)
          (before ++ (text ++ (indentedItems depth items ++ (close ++ [0x5D]))))
  | [], _, _, _, hclose, hbefore, _, _, h => .last hbefore h hclose
  | item :: rest, depth, _, _, hclose, hbefore, _, _, h => by
    have htail := writtenItems_indented rest depth hclose (isGap_newLine depth)
      (written_indented item depth)
    simp only [indentedItems, List.append_assoc]
    exact .more hbefore h isGap_nil htail

theorem writtenMembers_indented : (members : List (String × Json)) → (depth : Nat) →
    ∀ {close before : List UInt8}, IsGap close → IsGap before →
      (name : String) → ∀ {first : Json} {text : List UInt8}, Written first text →
        WrittenMembers ((name, first) :: members)
          (before ++ (quote name ++ 0x3A :: 0x20 ::
            (text ++ (indentedMembers depth members ++ (close ++ [0x7D])))))
  | [], _, _, _, hclose, hbefore, _, _, _, h => .last hbefore isGap_blank h hclose
  | (name', value) :: rest, depth, _, _, hclose, hbefore, _, _, _, h => by
    have htail := writtenMembers_indented rest depth hclose (isGap_newLine depth) name'
      (written_indented value depth)
    simp only [indentedMembers, List.append_assoc]
    exact .more hbefore isGap_blank h isGap_nil htail

end

end QuorumRescue.Json

/-
  Cutting a text in two at a character.

  Addresses, tags and headers are all taken apart by one character: at its first occurrence or at
  its last.  The character itself belongs to neither part.
-/

namespace QuorumRescue.Text

/-- The parts before and after the first `mark`, if there is one. -/
def splitFirst (mark : Char) : List Char → Option (List Char × List Char)
  | [] => none
  | c :: rest =>
      if c = mark then some ([], rest)
      else (splitFirst mark rest).map fun parts => (c :: parts.1, parts.2)

/-- The parts before and after the last `mark`, if there is one. -/
def splitLast (mark : Char) : List Char → Option (List Char × List Char)
  | [] => none
  | c :: rest =>
      match splitLast mark rest with
      | some parts => some (c :: parts.1, parts.2)
      | none => if c = mark then some ([], rest) else none

/-- The rest of the text after `lead`, if the text starts with it. -/
def dropLead : List Char → List Char → Option (List Char)
  | [], text => some text
  | _ :: _, [] => none
  | a :: lead, c :: rest => if a = c then dropLead lead rest else none

/-! ## Laws -/

/-- A text is split at the first mark. -/
theorem splitFirst_eq_some {mark : Char} {text before after : List Char} :
    splitFirst mark text = some (before, after) ↔
      text = before ++ mark :: after ∧ mark ∉ before := by
  induction text generalizing before with
  | nil => simp [splitFirst]
  | cons c rest ih =>
    by_cases h : c = mark
    · -- the head is the first mark, and nothing stands before it
      subst h
      cases before with
      | nil => simp [splitFirst, eq_comm]
      | cons b bs =>
        simp only [splitFirst, if_pos, Option.some.injEq, Prod.mk.injEq, List.cons_append,
          List.cons.injEq, List.mem_cons, not_or]
        constructor
        · intro hh; simp at hh
        · rintro ⟨⟨rfl, _⟩, hn, _⟩; exact absurd rfl hn
    · cases before with
      | nil => simp [splitFirst, h]
      | cons b bs =>
        simp only [splitFirst, if_neg h, Option.map_eq_some_iff, Prod.mk.injEq, List.cons.injEq,
          List.cons_append, List.mem_cons, not_or]
        constructor
        · rintro ⟨⟨p, q⟩, hp, ⟨rfl, rfl⟩, rfl⟩
          obtain ⟨h1, h2⟩ := ih.1 hp
          exact ⟨⟨rfl, h1⟩, fun e => h e.symm, h2⟩
        · rintro ⟨⟨rfl, h1⟩, _, h2⟩
          exact ⟨(bs, after), ih.2 ⟨h1, h2⟩, ⟨rfl, rfl⟩, rfl⟩

/-- It cannot be split if there is no mark in it. -/
theorem splitFirst_eq_none {mark : Char} {text : List Char} :
    splitFirst mark text = none ↔ mark ∉ text := by
  induction text with
  | nil => simp [splitFirst]
  | cons c rest ih =>
    by_cases h : c = mark
    · simp [splitFirst, h]
    · simp [splitFirst, h, ih, Ne.symm h]

/-- Nor can it be at the last one. -/
theorem splitLast_eq_none {mark : Char} {text : List Char} :
    splitLast mark text = none ↔ mark ∉ text := by
  induction text with
  | nil => simp [splitLast]
  | cons c rest ih =>
    simp only [splitLast]
    cases hr : splitLast mark rest with
    | some parts =>
      have : mark ∈ rest := by
        refine Classical.byContradiction fun hn => ?_
        rw [ih.2 hn] at hr; cases hr
      simp [this]
    | none =>
      have hn := ih.1 hr
      by_cases h : c = mark
      · simp [h]
      · simp [h, hn, Ne.symm h]

/-- A text is split at the last mark. -/
theorem splitLast_eq_some {mark : Char} {text before after : List Char} :
    splitLast mark text = some (before, after) ↔
      text = before ++ mark :: after ∧ mark ∉ after := by
  induction text generalizing before after with
  | nil => simp [splitLast]
  | cons c rest ih =>
    simp only [splitLast]
    cases hr : splitLast mark rest with
    -- there is a mark in the rest, so the last one is there, and not at the head
    | some parts =>
      obtain ⟨p, q⟩ := parts
      obtain ⟨h1, h2⟩ := ih.1 hr
      cases before with
      | nil =>
        simp only [Option.some.injEq, Prod.mk.injEq, List.nil_append, List.cons.injEq]
        constructor
        · rintro ⟨h, _⟩; cases h
        · rintro ⟨⟨_, rfl⟩, hn⟩; exact absurd (h1 ▸ (by simp : mark ∈ p ++ mark :: q)) hn
      | cons b bs =>
        simp only [Option.some.injEq, Prod.mk.injEq, List.cons_append, List.cons.injEq]
        constructor
        · rintro ⟨⟨rfl, rfl⟩, rfl⟩; exact ⟨⟨rfl, h1⟩, h2⟩
        · rintro ⟨⟨rfl, hb⟩, hn⟩
          have := (@ih bs after).2 ⟨hb, hn⟩
          rw [hr] at this
          simp only [Option.some.injEq, Prod.mk.injEq] at this
          exact ⟨⟨rfl, this.1⟩, this.2⟩
    -- there is none in the rest, so only the head can be the last one
    | none =>
      have hn := splitLast_eq_none.1 hr
      cases before with
      | nil =>
        by_cases h : c = mark
        · subst h
          simp only [if_pos, Option.some.injEq, Prod.mk.injEq, true_and, List.nil_append,
            List.cons.injEq]
          exact ⟨fun e => ⟨e, e ▸ hn⟩, fun e => e.1⟩
        · simp [h]
      | cons b bs =>
        refine ⟨fun h => ?_, fun h => ?_⟩
        · dsimp only at h
          split at h <;> simp at h
        · have h := h.1
          simp only [List.cons_append, List.cons.injEq] at h
          exact absurd (h.2 ▸ (by simp : mark ∈ bs ++ mark :: after)) hn

/-- A lead is dropped exactly from what begins with it. -/
theorem dropLead_eq_some {lead text rest : List Char} :
    dropLead lead text = some rest ↔ text = lead ++ rest := by
  induction lead generalizing text with
  | nil => simp [dropLead]
  | cons a lead ih =>
    cases text with
    | nil => simp [dropLead]
    | cons c text =>
      by_cases h : a = c
      · simp [dropLead, h, ih]
      · simp [dropLead, h, Ne.symm h]

end QuorumRescue.Text

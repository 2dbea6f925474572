/-
  Lists in increasing order, without repetition.

  Evidence is a set of texts, and it is shown and searched in order; the same list serves as the
  set.  Insertion keeps the order and drops what is already there, so two collections with the same
  members give the same list.
-/

namespace QuorumRescue.Ordered

variable {α : Type} [LT α] [DecidableLT α]

/-- Puts `a` in its place, unless it is there. -/
def insert (a : α) : List α → List α
  | [] => [a]
  | b :: rest =>
      if a < b then a :: b :: rest
      else if b < a then b :: insert a rest
      else b :: rest

/-- The members of a list in increasing order, each once. -/
def ofList (items : List α) : List α := items.foldl (fun set a => insert a set) []

example : ofList [3, 1, 2, 1] = [1, 2, 3] := by decide

/-! ## Laws -/

variable [Std.Trichotomous fun a b : α => a < b]

/-- Inserting an element adds it and nothing else. -/
theorem mem_insert {a b : α} {set : List α} : b ∈ insert a set ↔ b = a ∨ b ∈ set := by
  induction set with
  | nil => simp [insert]
  | cons head rest ih =>
    unfold insert
    split
    · simp
    · split
      · simp only [List.mem_cons, ih]
        exact or_left_comm
      · next hnot hnot' =>
        -- what is neither below the head nor above it is the head, and nothing is added
        have heq : a = head := Std.Trichotomous.trichotomous a head hnot hnot'
        simp [heq]

/-- Inserting several elements one by one adds them and nothing else. -/
theorem mem_foldl_insert {items set : List α} {a : α} :
    a ∈ items.foldl (fun set a => insert a set) set ↔ a ∈ items ∨ a ∈ set := by
  induction items generalizing set with
  | nil => simp
  | cons head rest ih => rw [List.foldl_cons, ih, mem_insert, List.mem_cons, or_left_comm, or_assoc]

/-- A list and the ordered one have the same members. -/
theorem mem_ofList {items : List α} {a : α} : a ∈ ofList items ↔ a ∈ items := by
  rw [ofList, mem_foldl_insert]
  simp

variable [Trans (fun a b : α => a < b) (fun a b : α => a < b) (fun a b : α => a < b)]

/-- An ascending list still ascends when an element has been inserted. -/
theorem pairwise_insert {a : α} {set : List α} (h : set.Pairwise (· < ·)) :
    (insert a set).Pairwise (· < ·) := by
  induction set with
  | nil => simp [insert]
  | cons head rest ih =>
    obtain ⟨hhead, hrest⟩ := List.pairwise_cons.1 h
    unfold insert
    split
    · next hlt =>
      refine List.pairwise_cons.2 ⟨?_, h⟩
      intro b hb
      rcases List.mem_cons.1 hb with rfl | hb
      · exact hlt
      · exact Trans.trans hlt (hhead b hb)
    · split
      · next hlt =>
        refine List.pairwise_cons.2 ⟨?_, ih hrest⟩
        intro b hb
        rcases mem_insert.1 hb with rfl | hb
        · exact hlt
        · exact hhead b hb
      · exact h

/-- The ordered list strictly ascends. -/
theorem pairwise_ofList (items : List α) : (ofList items).Pairwise (· < ·) := by
  have hfold : ∀ set : List α, set.Pairwise (· < ·) →
      (items.foldl (fun set a => insert a set) set).Pairwise (· < ·) := by
    induction items with
    | nil => exact fun _ h => h
    | cons head rest ih => exact fun set h => ih _ (pairwise_insert h)
  exact hfold [] List.Pairwise.nil

end QuorumRescue.Ordered

/-
  The first line of a configuration.

  The first line of a configuration names the version of the format that the rest is written in.  The
  program cuts the text at the first line feed, trims the end of the line, takes the lead off, and trims
  what is left on both sides.  Whether it finds a version, and which, should depend on the line alone
  and not on the order of these steps, and this file says what it depends on.

  1. **The line** is told by what it is made of and not by how it is cut.  `FirstLine` has the line and
     the rest, with the line feed between them or without any, and `splitHeader_eq_iff` says that
     cutting finds exactly these two.

  2. **The version** is told in the same way.  `NamesVersion` says that a line is the lead, white space,
     the version, and white space, where the version is tight: it is not empty, and neither begins nor
     ends in white space.  `versionOf_eq_some_iff` says that a line is taken to name a version exactly
     if it names it in this sense.

  3. **Trimming** leaves the one tight text that has white space around it (`trim_eq_iff`).  That is all
     that is used of it later.  The end of a text is the start of its reverse, so there is one argument
     for both sides.

  4. **The crux** is that the steps get in each other's way.  The end of the line is trimmed before the
     lead is taken off, and the lead itself ends in white space.  So a lead with nothing but white space
     behind it is no lead any more, and such a line names no version, not the empty one.  In terms of
     the text: a first line names a version exactly if the lead is still there when the end has been
     trimmed (`exists_namesVersion_iff`), and that is the condition under which the rest is looked at.
-/
import Mathlib.Data.List.Basic
import Mathlib.Data.List.TakeWhile
import QuorumRescue.Agent.Config

namespace QuorumRescue

/-! ## White space at the ends -/

namespace Text

variable {text kept : List Char}

/-- Trimming the start takes white space off and stops at the first character that is not white. -/
theorem trimStart_eq_iff : trimStart text = kept ↔
    ∃ before, text = before ++ kept ∧ (∀ c ∈ before, isWhite c) ∧ ∀ c ∈ kept.head?, ¬ isWhite c := by
  rw [trimStart]
  constructor
  · rintro rfl
    refine ⟨text.takeWhile isWhite, List.takeWhile_append_dropWhile.symm, fun c hc => ?_, fun c hc => ?_⟩
    · exact List.mem_takeWhile_imp hc
    · have hfirst := List.head?_dropWhile_not isWhite text
      rw [Option.mem_def.1 hc] at hfirst
      exact ne_true_of_eq_false hfirst
  · rintro ⟨before, rfl, hbefore, hhead⟩
    rw [List.dropWhile_append_of_pos hbefore]
    cases kept with
    | nil => rfl
    | cons c rest => exact List.dropWhile_cons_of_neg (hhead c rfl)

/-- Trimming the end does the same from the other side: the end of a text is the start of its reverse. -/
theorem trimEnd_eq_iff : trimEnd text = kept ↔
    ∃ after, text = kept ++ after ∧ (∀ c ∈ after, isWhite c) ∧ ∀ c ∈ kept.getLast?, ¬ isWhite c := by
  have hreverse : trimEnd text = kept ↔ trimStart text.reverse = kept.reverse := by
    rw [trimEnd, trimStart, List.reverse_eq_iff]
  rw [hreverse, trimStart_eq_iff, List.head?_reverse]
  constructor
  · rintro ⟨before, htext, hbefore, hlast⟩
    refine ⟨before.reverse, ?_, fun c hc => hbefore c (List.mem_reverse.1 hc), hlast⟩
    rw [← List.reverse_reverse text, htext, List.reverse_append, List.reverse_reverse]
  · rintro ⟨after, rfl, hafter, hlast⟩
    exact ⟨after.reverse, List.reverse_append, fun c hc => hafter c (List.mem_reverse.1 hc), hlast⟩

/-- A text that does not begin and does not end in white space. -/
structure Tight (text : List Char) : Prop where
  head : ∀ c ∈ text.head?, ¬ isWhite c
  last : ∀ c ∈ text.getLast?, ¬ isWhite c

/-- **Trimming leaves the tight text** that has white space around it.  A text of white space alone leaves
    the empty one, which is tight, too. -/
theorem trim_eq_iff : trim text = kept ↔ ∃ before after, text = before ++ kept ++ after
    ∧ (∀ c ∈ before, isWhite c) ∧ (∀ c ∈ after, isWhite c) ∧ Tight kept := by
  rw [trim, trimEnd_eq_iff]
  constructor
  · rintro ⟨after, hstart, hafter, hlast⟩
    obtain ⟨before, htext, hbefore, hhead⟩ := trimStart_eq_iff.1 hstart
    refine ⟨before, after, by rw [htext, List.append_assoc], hbefore, hafter, ⟨fun c hc => ?_, hlast⟩⟩
    exact hhead c (List.mem_head?_append_of_mem_head? hc)
  · rintro ⟨before, after, rfl, hbefore, hafter, hhead, hlast⟩
    cases kept with
    | nil =>
      -- there is nothing but white space, and all of it goes from the start
      refine ⟨[], trimStart_eq_iff.2 ⟨before ++ after, by simp, ?_, nofun⟩, nofun, hlast⟩
      rw [List.forall_mem_append]
      exact ⟨hbefore, hafter⟩
    | cons c rest =>
      refine ⟨after, trimStart_eq_iff.2 ⟨before, by rw [List.append_assoc], hbefore, ?_⟩, hafter, hlast⟩
      exact hhead

end Text

namespace AgentConfig

variable {line body version : List Char}

/-! ## The first line -/

/-- The first line of a text, and what follows it.  The last line need not be ended. -/
inductive FirstLine : (text line body : List Char) → Prop
  | ended {line body : List Char} (unbroken : '\n' ∉ line) : FirstLine (line ++ '\n' :: body) line body
  | last {line : List Char} (unbroken : '\n' ∉ line) : FirstLine line line []

/-- **Cutting finds the first line** and what follows it, and nothing else would be one. -/
theorem splitHeader_eq_iff {text : List Char} :
    splitHeader text = (line, body) ↔ FirstLine text line body := by
  unfold splitHeader
  constructor
  · intro h
    cases hsplit : Text.splitFirst '\n' text with
    | none =>
      rw [hsplit] at h
      obtain ⟨rfl, rfl⟩ := Prod.mk.inj h
      exact .last (Text.splitFirst_eq_none.1 hsplit)
    | some parts =>
      obtain rfl : parts = (line, body) := by rwa [hsplit] at h
      obtain ⟨rfl, hline⟩ := Text.splitFirst_eq_some.1 hsplit
      exact .ended hline
  · rintro (hline | hline)
    · rw [Text.splitFirst_eq_some.2 ⟨rfl, hline⟩]
      rfl
    · rw [Text.splitFirst_eq_none.2 hline]
      rfl

/-- The first line names a version: it has the lead, and the version behind it with nothing but white
    space around. -/
def NamesVersion (line version : List Char) : Prop :=
  ∃ before after, line = headerLead ++ before ++ version ++ after
    ∧ (∀ c ∈ before, Text.isWhite c) ∧ (∀ c ∈ after, Text.isWhite c)
    ∧ version ≠ [] ∧ Text.Tight version

/-- The lead ends in white space, so a first line that is the lead and nothing else loses it. -/
theorem versionOf_eq_some_iff : versionOf line = some version ↔ NamesVersion line version := by
  rw [versionOf, Option.map_eq_some_iff]
  constructor
  · rintro ⟨rest, hlead, htrim⟩
    obtain ⟨after, hline, hafter, hlast⟩ := Text.trimEnd_eq_iff.1 (Text.dropLead_eq_some.1 hlead)
    obtain ⟨before, behind, rfl, hbefore, hbehind, htight⟩ := Text.trim_eq_iff.1 htrim
    -- what the end was trimmed to does not end in white space, so there is a version
    have hne : version ≠ [] := by
      rintro rfl
      have hlead : headerLead ++ (before ++ [] ++ behind)
          = ['#', ' ', 'f', 'o', 'r', 'm', 'a', 't'] ++ ' ' :: (before ++ behind) := by
        rw [List.append_nil]
        rfl
      have hwhite : ∀ c ∈ ' ' :: (before ++ behind), Text.isWhite c := by
        rw [List.forall_mem_cons, List.forall_mem_append]
        exact ⟨rfl, hbefore, hbehind⟩
      have hcons : ' ' :: (before ++ behind) ≠ [] := List.cons_ne_nil ' ' (before ++ behind)
      rw [hlead, List.getLast?_append_of_ne_nil _ hcons, List.getLast?_eq_some_getLast hcons] at hlast
      exact hlast _ rfl (hwhite _ (List.getLast_mem hcons))
    refine ⟨before, behind ++ after, ?_, hbefore, ?_, hne, htight⟩
    · rw [hline]
      simp only [List.append_assoc]
    · rw [List.forall_mem_append]
      exact ⟨hbehind, hafter⟩
  · rintro ⟨before, after, rfl, hbefore, hafter, hne, htight⟩
    refine ⟨before ++ version, Text.dropLead_eq_some.2 (Text.trimEnd_eq_iff.2 ⟨after, ?_, hafter, ?_⟩), ?_⟩
    · simp only [List.append_assoc]
    · rw [← List.append_assoc, List.getLast?_append_of_ne_nil _ hne]
      exact htight.last
    · refine Text.trim_eq_iff.2 ⟨before, [], by rw [List.append_nil], hbefore, nofun, htight⟩

/-- A first line names a version exactly if the lead is still there when the end has been trimmed. -/
theorem exists_namesVersion_iff :
    (∃ version, NamesVersion line version) ↔ headerLead <+: Text.trimEnd line := by
  constructor
  · rintro ⟨version, hnames⟩
    obtain ⟨rest, hlead, -⟩ := Option.map_eq_some_iff.1 (versionOf_eq_some_iff.2 hnames)
    exact ⟨rest, (Text.dropLead_eq_some.1 hlead).symm⟩
  · rintro ⟨rest, hlead⟩
    refine ⟨Text.trim rest, versionOf_eq_some_iff.1 (Option.map_eq_some_iff.2 ⟨rest, ?_, rfl⟩)⟩
    exact Text.dropLead_eq_some.2 hlead.symm

end AgentConfig

end QuorumRescue

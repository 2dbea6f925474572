/-
  What a membership keeps of a list of members.

  Members come as a list, from the registry, from an operator, or from recovery itself.  A list may name
  an id several times and in any order, and it knows three roles.  The log keeps a membership, which has
  each id once and in order, and only knows who votes.  What comes out is therefore not always what went
  in, and this file says how the two differ.

  1. **The specification** is `Membership.Keeps`, about the list that goes in and the list that comes
     out.  It says so entry by entry, without maps or sets: ids increase; the ids of both lists are the
     same; under each id is the address that came last; and a member votes if any entry of its id does,
     and stands by otherwise.

  2. **It leaves no choice** (`Keeps.unique`): two lists that are kept of one list are equal.  So it
     says all there is to say, and whatever satisfies it is the answer.

  3. **The crux** is what a map from ids contains after pairs have been put into it one by one
     (`IdMap.mem_ofList`): a pair is there exactly if it stands in the list and no later pair has its id
     (`IsLast`).  The induction is along the list, with the map so far as what varies; a pair that is
     put replaces what was under its id and nothing else (`mem_putEntry_iff`).  The set of voters is the
     same map without values.

  4. **The results.** A list describes a membership exactly if somebody in it votes
     (`ofMembers?_eq_some_iff`), and what comes out of it is kept of the list (`keeps_members`).  A list
     is kept as it is exactly if its ids ascend and nobody in it is a spare (`keeps_self_iff`), which is
     when log and registry can agree.
-/
import Mathlib.Data.List.Sort
import QuorumRescue.Membership

namespace QuorumRescue

/-! ## Maps from ids -/

namespace IdMap

variable {α : Type}

/-- Putting a value under an id replaces what was under that id, and nothing else. -/
theorem mem_putEntry_iff {id : UInt64} {value : α} {entries : List (UInt64 × α)}
    (h : entries.Pairwise fun a b => a.1 < b.1) {e : UInt64 × α} :
    e ∈ putEntry id value entries ↔ e = (id, value) ∨ (e ∈ entries ∧ e.1 ≠ id) := by
  induction entries with
  | nil => simp [putEntry]
  | cons b rest ih =>
    obtain ⟨hb, hrest⟩ := List.pairwise_cons.1 h
    simp only [putEntry]
    split
    · next hlt =>
      -- all ids in the map are above the new one
      have hother : e ∈ b :: rest → e.1 ≠ id := by
        intro he
        rcases List.mem_cons.1 he with rfl | he
        · exact (UInt64.ne_of_lt hlt).symm
        · exact (UInt64.ne_of_lt (UInt64.lt_trans hlt (hb e he))).symm
      rw [List.mem_cons]
      exact or_congr_right ⟨fun he => ⟨he, hother he⟩, And.left⟩
    · split
      · next hnlt heq =>
        subst heq
        have hother : e ∈ rest → e.1 ≠ b.1 := fun he => (UInt64.ne_of_lt (hb e he)).symm
        constructor
        · intro he
          rcases List.mem_cons.1 he with he | he
          · exact Or.inl he
          · exact Or.inr ⟨List.mem_cons_of_mem _ he, hother he⟩
        · rintro (rfl | ⟨he, hne⟩)
          · exact List.mem_cons_self
          · rcases List.mem_cons.1 he with rfl | he
            · exact absurd rfl hne
            · exact List.mem_cons_of_mem _ he
      · next hnlt hne =>
        rw [List.mem_cons, ih hrest, List.mem_cons]
        constructor
        · rintro (rfl | he | ⟨he, hid⟩)
          · exact Or.inr ⟨Or.inl rfl, fun heq => hne heq.symm⟩
          · exact Or.inl he
          · exact Or.inr ⟨Or.inr he, hid⟩
        · rintro (he | ⟨rfl | he, hid⟩)
          · exact Or.inr (Or.inl he)
          · exact Or.inl rfl
          · exact Or.inr (Or.inr ⟨he, hid⟩)

/-- So it is for a map, whose entries increase. -/
theorem mem_put {map : IdMap α} {id : UInt64} {value : α} {e : UInt64 × α} :
    e ∈ (map.put id value).entries ↔ e = (id, value) ∨ (e ∈ map.entries ∧ e.1 ≠ id) :=
  mem_putEntry_iff map.increasing

/-- A pair stands in a list, and no later one has its id. -/
def IsLast (pairs : List (UInt64 × α)) (e : UInt64 × α) : Prop :=
  ∃ before after, pairs = before ++ e :: after ∧ ∀ x ∈ after, x.1 ≠ e.1

/-- A pair is last in a list if it is last in the rest, or at the head with no successor of its id. -/
theorem isLast_cons {head : UInt64 × α} {rest : List (UInt64 × α)} {e : UInt64 × α} :
    IsLast (head :: rest) e ↔ IsLast rest e ∨ (e = head ∧ ∀ x ∈ rest, x.1 ≠ head.1) := by
  constructor
  · rintro ⟨before, after, heq, hafter⟩
    cases before with
    | nil =>
      obtain ⟨rfl, rfl⟩ := List.cons.inj heq
      exact Or.inr ⟨rfl, hafter⟩
    | cons first before =>
      obtain ⟨-, rfl⟩ := List.cons.inj heq
      exact Or.inl ⟨before, after, rfl, hafter⟩
  · rintro (⟨before, after, rfl, hafter⟩ | ⟨rfl, hrest⟩)
    · exact ⟨head :: before, after, rfl, hafter⟩
    · exact ⟨[], rest, rfl, hrest⟩

/-- Whatever is last somewhere is in the list. -/
theorem IsLast.mem {pairs : List (UInt64 × α)} {e : UInt64 × α} (h : IsLast pairs e) : e ∈ pairs := by
  obtain ⟨before, after, rfl, -⟩ := h
  exact List.mem_append_right _ List.mem_cons_self

/-- Pairs that are put one by one into a map. -/
theorem mem_foldl_put {pairs : List (UInt64 × α)} {map : IdMap α} {e : UInt64 × α} :
    e ∈ (pairs.foldl (fun map e => map.put e.1 e.2) map).entries
      ↔ IsLast pairs e ∨ (e ∈ map.entries ∧ ∀ x ∈ pairs, x.1 ≠ e.1) := by
  induction pairs generalizing map with
  | nil => simp [IsLast]
  | cons head rest ih =>
    rw [List.foldl_cons, ih, mem_put, isLast_cons]
    constructor
    · rintro (hlast | ⟨rfl | ⟨hmap, hne⟩, hrest⟩)
      · exact Or.inl (Or.inl hlast)
      · exact Or.inl (Or.inr ⟨rfl, hrest⟩)
      · refine Or.inr ⟨hmap, fun x hx => ?_⟩
        rcases List.mem_cons.1 hx with rfl | hx
        · exact hne.symm
        · exact hrest x hx
    · rintro ((hlast | ⟨rfl, hrest⟩) | ⟨hmap, hne⟩)
      · exact Or.inl hlast
      · exact Or.inr ⟨Or.inl rfl, hrest⟩
      · exact Or.inr ⟨Or.inr ⟨hmap, (hne head List.mem_cons_self).symm⟩,
          fun x hx => hne x (List.mem_cons_of_mem _ hx)⟩

/-- **The last pair of each id counts.** Pairs are put into the map one after the other, so a later one
    takes the place of an earlier one. -/
theorem mem_ofList {pairs : List (UInt64 × α)} {e : UInt64 × α} :
    e ∈ (ofList pairs).entries ↔ IsLast pairs e := by
  rw [ofList, mem_foldl_put]
  simp [empty]

/-- An id that stands in a list stands there last somewhere. -/
theorem exists_isLast {pairs : List (UInt64 × α)} {id : UInt64} (h : ∃ e ∈ pairs, e.1 = id) :
    ∃ e, IsLast pairs e ∧ e.1 = id := by
  induction pairs with
  | nil => obtain ⟨e, he, -⟩ := h; cases he
  | cons head rest ih =>
    by_cases hrest : ∃ e ∈ rest, e.1 = id
    · obtain ⟨e, hlast, hid⟩ := ih hrest
      exact ⟨e, isLast_cons.2 (Or.inl hlast), hid⟩
    · obtain ⟨e, he, rfl⟩ := h
      rcases List.mem_cons.1 he with rfl | he
      · exact ⟨e, isLast_cons.2 (Or.inr ⟨rfl, fun x hx heq => hrest ⟨x, hx, heq⟩⟩), rfl⟩
      · exact absurd ⟨e, he, rfl⟩ hrest

/-- The ids of a map are those of the pairs that it was made from. -/
theorem mem_ids_ofList {pairs : List (UInt64 × α)} {id : UInt64} :
    id ∈ (ofList pairs).ids ↔ ∃ e ∈ pairs, e.1 = id := by
  rw [ids, List.mem_map]
  constructor
  · rintro ⟨e, he, rfl⟩
    exact ⟨e, (mem_ofList.1 he).mem, rfl⟩
  · intro h
    obtain ⟨e, hlast, hid⟩ := exists_isLast h
    exact ⟨e, mem_ofList.2 hlast, hid⟩

end IdMap

/-- A set has the ids that it was made from. -/
theorem IdSet.mem_ids_ofList {ids : List UInt64} {id : UInt64} :
    id ∈ (IdSet.ofList ids).ids ↔ id ∈ ids := by
  rw [IdSet.ofList, IdMap.mem_ids_ofList]
  simp

/-! ## Lists of members -/

namespace Membership

/-- The voters are the ids that some entry has a vote for. -/
theorem mem_votersOf {members : List Member} {id : UInt64} :
    id ∈ (votersOf members).ids ↔ ∃ m ∈ members, m.id = id ∧ m.role = .voter := by
  rw [votersOf, IdSet.mem_ids_ofList]
  simp [and_assoc, and_comm]

/-- The nodes have all ids of the list. -/
theorem mem_ids_nodesOf {members : List Member} {id : UInt64} :
    id ∈ (nodesOf members).ids ↔ ∃ m ∈ members, m.id = id := by
  rw [nodesOf, IdMap.mem_ids_ofList]
  simp

/-- Under each id is the address of its last entry. -/
theorem mem_nodesOf {members : List Member} {id : UInt64} {address : String} :
    (id, address) ∈ (nodesOf members).entries ↔
      ∃ before last after, members = before ++ last :: after ∧ last.id = id ∧ last.address = address
        ∧ ∀ x ∈ after, x.id ≠ id := by
  rw [nodesOf, IdMap.mem_ofList]
  constructor
  · rintro ⟨before, after, heq, hafter⟩
    obtain ⟨before', rest, rfl, -, hrest⟩ := List.map_eq_append_iff.1 heq
    obtain ⟨last, after', rfl, hlast, rfl⟩ := List.map_eq_cons_iff.1 hrest
    obtain ⟨rfl, rfl⟩ := Prod.mk.inj hlast
    exact ⟨before', last, after', rfl, rfl, rfl, fun x hx => hafter _ (List.mem_map_of_mem hx)⟩
  · rintro ⟨before, last, after, rfl, rfl, rfl, hafter⟩
    rw [List.map_append, List.map_cons]
    refine ⟨_, _, rfl, fun x hx => ?_⟩
    obtain ⟨m, hm, rfl⟩ := List.mem_map.1 hx
    exact hafter m hm

/-- **A list describes a membership exactly when somebody in it votes**: the voters are one set, and
all of them are nodes. -/
theorem ofMembers?_eq_some_iff {members : List Member} {membership : Membership} :
    ofMembers? members = some membership ↔
      (∃ m ∈ members, m.role = .voter) ∧ membership = ⟨[votersOf members], nodesOf members⟩ := by
  have hvoter : (votersOf members).entries ≠ [] ↔ ∃ m ∈ members, m.role = .voter := by
    constructor
    · intro hne
      obtain ⟨e, he⟩ := List.exists_mem_of_ne_nil _ hne
      obtain ⟨m, hm, -, hrole⟩ := mem_votersOf.1 (List.mem_map_of_mem he)
      exact ⟨m, hm, hrole⟩
    · rintro ⟨m, hm, hrole⟩ hnil
      have hid : m.id ∈ (votersOf members).ids := mem_votersOf.2 ⟨m, hm, rfl, hrole⟩
      rw [IdMap.ids, hnil] at hid
      cases hid
  rw [← hvoter, ofMembers?]
  cases (votersOf members).entries with
  | nil => simp
  | cons e rest => simp [eq_comm]

/-- What is kept of a list of members: each id once, in order; under it the address of its last entry,
and a vote if any of its entries has one. -/
structure Keeps (members kept : List Member) : Prop where
  increasing : kept.Pairwise fun a b => a.id < b.id
  ids : ∀ id, (∃ m ∈ kept, m.id = id) ↔ ∃ m ∈ members, m.id = id
  address : ∀ m ∈ kept, ∃ before last after, members = before ++ last :: after
    ∧ last.id = m.id ∧ last.address = m.address ∧ ∀ x ∈ after, x.id ≠ m.id
  role : ∀ m ∈ kept,
    m.role = if ∃ x ∈ members, x.id = m.id ∧ x.role = .voter then .voter else .standby

variable {members kept : List Member}

/-- An id votes if any of the sets has it. -/
theorem hasVote_iff {membership : Membership} {id : UInt64} :
    membership.hasVote id ↔ ∃ voters ∈ membership.configs, id ∈ voters.ids := by
  simp [hasVote]

/-- A node is listed with its vote. -/
theorem mem_members {membership : Membership} {m : Member} :
    m ∈ membership.members ↔ (m.id, m.address) ∈ membership.nodes.entries
      ∧ m.role = if membership.hasVote m.id then .voter else .standby := by
  rw [Membership.members, List.mem_map]
  constructor
  · rintro ⟨e, he, rfl⟩
    exact ⟨he, rfl⟩
  · rintro ⟨he, hrole⟩
    refine ⟨_, he, ?_⟩
    rw [← hrole]

/-- The members of a membership are in the order of their ids. -/
theorem members_increasing (membership : Membership) :
    membership.members.Pairwise fun a b => a.id < b.id := by
  rw [Membership.members, List.pairwise_map]
  exact membership.nodes.increasing

/-- **What comes out of a membership is kept of what went in.** Addresses are kept in a map and votes in a
    set, and both are put together again by id. -/
theorem keeps_members {membership : Membership} (h : ofMembers? members = some membership) :
    Keeps members membership.members := by
  obtain ⟨-, rfl⟩ := ofMembers?_eq_some_iff.1 h
  have hvote : ∀ id, hasVote ⟨[votersOf members], nodesOf members⟩ id = true
      ↔ ∃ x ∈ members, x.id = id ∧ x.role = .voter := by
    intro id
    rw [← mem_votersOf, hasVote_iff]
    simp
  refine ⟨members_increasing _, fun id => ?_, fun m hm => ?_, fun m hm => ?_⟩
  · refine Iff.trans ?_ mem_ids_nodesOf
    rw [IdMap.ids, List.mem_map]
    constructor
    · rintro ⟨m, hm, rfl⟩
      exact ⟨(m.id, m.address), (mem_members.1 hm).1, rfl⟩
    · rintro ⟨e, he, rfl⟩
      exact ⟨_, List.mem_map_of_mem he, rfl⟩
  · exact mem_nodesOf.1 (mem_members.1 hm).1
  · rw [(mem_members.1 hm).2]
    simp only [hvote]

/-- The last entry of an id is one entry. -/
theorem address_unique {id : UInt64} {before before' after after' : List Member} {a b : Member}
    (h : before ++ a :: after = before' ++ b :: after') (ha : a.id = id) (hb : b.id = id)
    (hafter : ∀ x ∈ after, x.id ≠ id) (hafter' : ∀ x ∈ after', x.id ≠ id) : a = b := by
  rcases List.append_eq_append_iff.1 h with ⟨between, rfl, hrest⟩ | ⟨between, rfl, hrest⟩
  · cases between with
    | nil => exact (List.cons.inj hrest).1
    | cons c between =>
      obtain ⟨-, rfl⟩ := List.cons.inj hrest
      exact absurd hb (hafter b (List.mem_append_right _ List.mem_cons_self))
  · cases between with
    | nil => exact (List.cons.inj hrest).1.symm
    | cons c between =>
      obtain ⟨-, rfl⟩ := List.cons.inj hrest
      exact absurd ha (hafter' a (List.mem_append_right _ List.mem_cons_self))

/-- A member that is kept in one list is kept in any other: id, address and role are all determined. -/
theorem Keeps.mem_of_mem {other : List Member} (h : Keeps members kept) (h' : Keeps members other)
    {m : Member} (hm : m ∈ kept) : m ∈ other := by
  obtain ⟨m', hm', hid⟩ := (h'.ids m.id).2 ((h.ids m.id).1 ⟨m, hm, rfl⟩)
  obtain ⟨before, last, after, heq, hlast, haddress, hafter⟩ := h.address m hm
  obtain ⟨before', last', after', heq', hlast', haddress', hafter'⟩ := h'.address m' hm'
  rw [hid] at hlast' hafter'
  have hsame := address_unique (heq.symm.trans heq') hlast hlast' hafter hafter'
  obtain rfl : m' = m := by
    have hrole := (h'.role m' hm').trans (hid ▸ (h.role m hm).symm)
    cases m
    cases m'
    simp_all
  exact hm'

/-- Members are in order when their ids are. -/
instance : Std.Irrefl fun a b : Member => a.id < b.id := ⟨fun a => UInt64.lt_irrefl a.id⟩

instance : Std.Antisymm fun a b : Member => a.id < b.id :=
  ⟨fun _ _ hab hba => absurd hab (UInt64.lt_asymm hba)⟩

/-- **There is only one list to be kept.** Its ids ascend, and each of them has one address and one role. -/
theorem Keeps.unique {other : List Member} (h : Keeps members kept) (h' : Keeps members other) :
    kept = other :=
  h.increasing.eq_of_mem_iff h'.increasing fun _ => ⟨h.mem_of_mem h', h'.mem_of_mem h⟩

/-- **A list is kept as it is** exactly when its ids ascend and nobody in it is a spare. -/
theorem keeps_self_iff : Keeps members members ↔
    (members.Pairwise fun a b => a.id < b.id) ∧ ∀ m ∈ members, m.role ≠ .spare := by
  constructor
  · intro h
    refine ⟨h.increasing, fun m hm => ?_⟩
    rw [h.role m hm]
    split <;> exact nofun
  · rintro ⟨hids, hspare⟩
    -- ascending ids stand once each, so that an entry is the last one and the only one of its id
    have hone : ∀ x ∈ members, ∀ m ∈ members, x.id = m.id → x = m := by
      have hnodup : (members.map Member.id).Nodup :=
        List.pairwise_map.2 (hids.imp fun hlt => UInt64.ne_of_lt hlt)
      exact fun x hx m hm hid => List.inj_on_of_nodup_map hnodup hx hm hid
    refine ⟨hids, fun id => Iff.rfl, fun m hm => ?_, fun m hm => ?_⟩
    · obtain ⟨before, after, heq⟩ := List.append_of_mem hm
      refine ⟨before, m, after, heq, rfl, rfl, fun x hx hid => ?_⟩
      rw [heq] at hids
      have hlt := (List.pairwise_cons.1 (List.pairwise_append.1 hids).2.1).1 x hx
      exact UInt64.ne_of_lt hlt hid.symm
    · by_cases hvote : m.role = .voter
      · rw [if_pos ⟨m, hm, rfl, hvote⟩, hvote]
      · have hnone : ¬ ∃ x ∈ members, x.id = m.id ∧ x.role = .voter := by
          rintro ⟨x, hx, hid, hxrole⟩
          rw [hone x hx m hm hid] at hxrole
          exact hvote hxrole
        have hno := hspare m hm
        rw [if_neg hnone]
        cases hrole : m.role <;> simp_all

/-- A list that came out of a membership is kept as it is. -/
theorem keeps_self (membership : Membership) : Keeps membership.members membership.members := by
  refine keeps_self_iff.2 ⟨membership.members_increasing, fun m hm => ?_⟩
  rw [(mem_members.1 hm).2]
  split <;> exact nofun

end Membership

end QuorumRescue

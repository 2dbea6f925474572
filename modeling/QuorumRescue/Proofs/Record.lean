/-
  A record that was written is read back, and is trusted.

  The record of a log goes to its file in indented form, as the text of a JSON value.  Reading takes the
  text apart into a draft, and the draft into a record, checks the version, and computes the checksum
  once more over the membership that it has found.  The checksum was taken over another text of the same
  membership, in compact form.  So that a record is trusted after it was written takes two journeys
  through a text, one for the file and one for the checksum, and both have to lead back to where they
  began.

  1. **Written forms.** That reading a text gives the draft of the value it was written from, in
     whatever layout it stands, is the theorem `Json.ofBytes_written`.  It is all that is used of texts
     here: indented and compact form are two written forms of a value.

  2. **Layouts.** What is left is to take the draft of a value apart and get back what the value was put
     together from.  There is one lemma for each layout, named after the reader and the writer: leaders,
     log ids, nodes, configurations, memberships, stored memberships, and the record.  Each of them
     hands over the fields in the order in which they were written (`Json.Draft.foldFields_draft`) and
     uses the lemmas of the layouts inside.

  3. **The crux** is that a set or a map of ids survives.  It is written in the order of its ids and
     read as a list of pairs, which are put into an empty map one by one.  A pair whose id is above all
     others goes to the end (`IdMap.putEntry_last`), so from an increasing list the same list comes out
     (`IdMap.ofList_entries`).  The invariant of the induction is that the entries so far and the pairs
     to come increase as one list.

  4. **Trust.** A file is trusted exactly if it is read as a record of the known version whose checksum
     is that of its membership (`LogRecord.trusted_eq_ok_iff`).  For a record that was forced all of it
     holds by construction (`LogRecord.trusted_force`), which is what the proofs about recovery use.
-/
import QuorumRescue.LogRecord
import QuorumRescue.Proofs.Json.Written

namespace QuorumRescue

/-! ## Maps from ids -/

namespace IdMap

variable {α : Type}

/-- A map is known by its entries; that they increase is no further information. -/
theorem ext_entries {a b : IdMap α} (h : a.entries = b.entries) : a = b := by
  cases a; cases b; cases h; rfl

/-- A pair whose id is above all others goes to the end. -/
theorem putEntry_last {id : UInt64} {value : α} {entries : List (UInt64 × α)}
    (h : ∀ e ∈ entries, e.1 < id) : putEntry id value entries = entries ++ [(id, value)] := by
  induction entries with
  | nil => rfl
  | cons e rest ih =>
    have he : e.1 < id := h e List.mem_cons_self
    rw [putEntry, if_neg (UInt64.lt_asymm he), if_neg (fun heq => UInt64.ne_of_lt he heq.symm),
      ih fun x hx => h x (List.mem_cons_of_mem _ hx)]
    rfl

/-- **Pairs in order are appended.** The entries of a map and the pairs that are put into it have to
    increase as one list, and putting a pair keeps that so. -/
theorem foldl_put_entries (pairs : List (UInt64 × α)) (map : IdMap α)
    (h : (map.entries ++ pairs).Pairwise fun a b => a.1 < b.1) :
    (pairs.foldl (fun map e => map.put e.1 e.2) map).entries = map.entries ++ pairs := by
  induction pairs generalizing map with
  | nil => simp
  | cons e rest ih =>
    have hlast : (map.put e.1 e.2).entries = map.entries ++ [e] :=
      putEntry_last fun x hx => (List.pairwise_append.1 h).2.2 x hx e List.mem_cons_self
    have h' : ((map.put e.1 e.2).entries ++ rest).Pairwise fun a b => a.1 < b.1 := by
      rw [hlast, List.append_assoc]; exact h
    rw [List.foldl_cons, ih _ h', hlast, List.append_assoc]
    rfl

/-- **A map is made again from its own entries.** Their ids ascend, so each of them is put behind the others
    and takes nobody's place. -/
theorem ofList_entries (map : IdMap α) : ofList map.entries = map := by
  refine ext_entries ?_
  rw [ofList, foldl_put_entries map.entries empty (by simpa [empty] using map.increasing)]
  rfl

end IdMap

/-- A set is made again from its own ids. -/
theorem IdSet.ofList_ids (set : IdSet) : IdSet.ofList set.ids = set := by
  have hpairs : (set.ids.map fun id => (id, ())) = set.entries := by
    rw [IdMap.ids, List.map_map]
    exact List.map_id _
  rw [IdSet.ofList, hpairs, IdMap.ofList_entries]

/-! ## Leaves -/

namespace Json

open Draft

theorem toWord_draft (w : UInt64) : toWord (draft (.number w.toNat)) = .ok w := by
  have := w.toNat_lt
  simp [draft, toWord, this]

theorem toWord32_draft (w : UInt32) : toWord32 (draft (.number w.toNat)) = .ok w := by
  have := w.toNat_lt
  simp [draft, toWord32, this]

theorem toBool_draft (b : Bool) : toBool (draft (.bool b)) = .ok b := rfl

/-- A text is read back, whatever characters had to be escaped in it. -/
theorem toText_draft (s : String) : toText (draft (.text s)) = .ok s := by
  simp [draft, toText, textOf_escaped]

theorem toOption_null {α : Type} (read : Draft → Except DecodeFault α) :
    toOption read (draft .null) = .ok none := rfl

theorem toOption_object {α : Type} (read : Draft → Except DecodeFault α)
    (members : List (String × Json)) :
    toOption read (draft (.object members)) = (read (draft (.object members))).map some := by
  simp only [draft, toOption]

theorem toOption_text {α : Type} (read : Draft → Except DecodeFault α) (s : String) :
    toOption read (draft (.text s)) = (read (draft (.text s))).map some := by
  simp only [draft, toOption]

/-- The name of a field that was made from an id is read as that id. -/
theorem idOfName_escaped (id : UInt64) :
    idOfName (escaped (Numeral.toText id.toNat)) = some id := by
  have hread : readInteger (digits id.toNat ++ []) = some (digits id.toNat, []) :=
    readInteger_digits id.toNat fun _ _ he => nomatch he
  rw [List.append_nil] at hread
  have := id.toNat_lt
  simp [idOfName, escaped_toText, hread, digitsValue_digits, this]

/-! ## Collections -/

/-- Items that are read one by one give the list that they were made from. -/
theorem readAll_draftItems {α : Type} {read : Draft → Except DecodeFault α} {write : α → Json}
    (h : ∀ a, read (write a).draft = .ok a) (list : List α) :
    readAll read (draftItems (list.map write)) = .ok list := by
  induction list with
  | nil => rfl
  | cons a rest ih => simp only [List.map_cons, draftItems, readAll, h, ih]

/-- A list is read back if its items are. -/
theorem toList_draft {α : Type} {read : Draft → Except DecodeFault α} {write : α → Json}
    (h : ∀ a, read (write a).draft = .ok a) (list : List α) :
    toList read (draft (.array (list.map write))) = .ok list := by
  simp [draft, toList, readAll_draftItems h]

/-- Fields that are named by ids give the pairs that they were made from. -/
theorem readIdMembers_draftMembers {α : Type} {read : Draft → Except DecodeFault α}
    {write : α → Json} (h : ∀ a, read (write a).draft = .ok a) (pairs : List (UInt64 × α)) :
    readIdMembers read
      (draftMembers (pairs.map fun e => (Numeral.toText e.1.toNat, write e.2))) = .ok pairs := by
  induction pairs with
  | nil => rfl
  | cons e rest ih =>
    simp only [List.map_cons, draftMembers, readIdMembers, idOfName_escaped, h, ih]

/-- An object with such fields gives the list of pairs, in the order in which they were written. -/
theorem toIdPairs_draft {α : Type} {read : Draft → Except DecodeFault α} {write : α → Json}
    (h : ∀ a, read (write a).draft = .ok a) (pairs : List (UInt64 × α)) :
    toIdPairs read
      (draft (.object (pairs.map fun e => (Numeral.toText e.1.toNat, write e.2)))) = .ok pairs := by
  simp [draft, toIdPairs, readIdMembers_draftMembers h]

end Json

/-! ## Layouts -/

namespace Json.Draft

/-- The fields of a written object are handed over one by one, when all of them are named by the
layout. -/
theorem foldFields_draft {σ : Type} {names : List String}
    {take : σ → String → Draft → Except DecodeFault σ} (members : List (String × Json))
    (h : ∀ m ∈ members, names.contains m.1) (state : σ) :
    foldFields names take state (draft (.object members))
      = members.foldlM (fun state m => take state m.1 m.2.draft) state := by
  have hfold : foldMembers names take state (draftMembers members)
      = members.foldlM (fun state m => take state m.1 m.2.draft) state := by
    induction members generalizing state with
    | nil => rfl
    | cons m rest ih =>
      have hm : names.contains m.1 = true := h m List.mem_cons_self
      have hrest := fun state => ih (fun x hx => h x (List.mem_cons_of_mem _ hx)) state
      simp only [draftMembers, foldMembers, textOf_escaped, hm, if_true, List.foldlM_cons]
      cases take state m.1 m.2.draft with
      | error fault => rfl
      | ok state => exact hrest state
  rw [draft, foldFields, hfold]
  cases members.foldlM (fun state m => take state m.1 m.2.draft) state <;> rfl

end Json.Draft

open Json Json.Draft DecodeFault

/-- The leader of an entry is read back. -/
theorem LeaderId.ofDraft_toJson (leader : LeaderId) :
    LeaderId.ofDraft leader.toJson.draft = .ok leader := by
  rw [LeaderId.ofDraft, LeaderId.toJson, foldFields_draft _ (by simp)]
  simp [LeaderId.Fields.take, toWord_draft, once, required, bind, Except.bind, pure, Except.pure]

/-- So is the id of an entry, with its leader. -/
theorem LogId.ofDraft_toJson (id : LogId) : LogId.ofDraft id.toJson.draft = .ok id := by
  rw [LogId.ofDraft, LogId.toJson, foldFields_draft _ (by simp)]
  simp [LogId.Fields.take, LeaderId.ofDraft_toJson, toWord_draft, once, required, bind, Except.bind,
    pure, Except.pure]

namespace Membership

/-- A node is read back as its address. -/
theorem addressOfDraft_nodeJson (address : String) :
    addressOfDraft (nodeJson address).draft = .ok address := by
  rw [addressOfDraft, nodeJson, foldFields_draft _ (by simp)]
  simp [takeAddress, toText_draft, once, required, bind, Except.bind, pure, Except.pure]

/-- A configuration is read back as the same set of ids. -/
theorem configOfDraft_toJson (config : IdSet) : configOfDraft config.toJson.draft = .ok config := by
  rw [configOfDraft, IdSet.toJson, toList_draft toWord_draft]
  exact congrArg Except.ok config.ofList_ids

/-- **A membership is read back from the value it is written as**, configurations and nodes. -/
theorem ofDraft_toJson (membership : Membership) :
    Membership.ofDraft membership.toJson.draft = .ok membership := by
  rw [Membership.ofDraft, Membership.toJson, foldFields_draft _ (by simp)]
  simp [Membership.Fields.take, toList_draft configOfDraft_toJson,
    toIdPairs_draft addressOfDraft_nodeJson, IdMap.ofList_entries, once, required, bind, Except.bind,
    pure, Except.pure]

end Membership

/-- A stored membership is read back, with the id of its entry or without one. -/
theorem StoredMembership.ofDraft_toJson (stored : StoredMembership) :
    StoredMembership.ofDraft stored.toJson.draft = .ok stored := by
  obtain ⟨logId, membership⟩ := stored
  rw [StoredMembership.ofDraft, StoredMembership.toJson, foldFields_draft _ (by simp)]
  cases logId with
  | none =>
    simp [StoredMembership.Fields.take, Membership.ofDraft_toJson, toOption_null, once, required,
      bind, Except.bind, pure, Except.pure]
  | some id =>
    have hread : toOption LogId.ofDraft id.toJson.draft = .ok (some id) := by
      rw [LogId.toJson, toOption_object, ← LogId.toJson, LogId.ofDraft_toJson]
      rfl
    simp [StoredMembership.Fields.take, Membership.ofDraft_toJson, hread, once, required,
      bind, Except.bind, pure, Except.pure]

/-- **A membership is read back from the text that its checksum covers.** -/
theorem StoredMembership.decode_compact (stored : StoredMembership) :
    Json.decode StoredMembership.ofDraft stored.toJson.compact = .ok stored := by
  rw [Json.decode, ofBytes_written (written_compact stored.toJson)]
  simp [ofDraft_toJson]

namespace LogRecord

/-- **A record is read back from the value it is written as.** -/
theorem ofDraft_toJson (record : LogRecord) : LogRecord.ofDraft record.toJson.draft = .ok record := by
  obtain ⟨format, forced, forcedAt, stored, checksum⟩ := record
  rw [LogRecord.ofDraft, LogRecord.toJson]
  cases forcedAt with
  | none =>
    rw [foldFields_draft _ (by simp [fieldNames])]
    simp [Fields.take, StoredMembership.ofDraft_toJson, toWord32_draft, toBool_draft, toText_draft,
      once, required, bind, Except.bind, pure, Except.pure]
  | some time =>
    have hread : toOption toText (draft (.text time)) = .ok (some time) := by
      rw [toOption_text, toText_draft]
      rfl
    rw [foldFields_draft _ (by simp [fieldNames])]
    simp [Fields.take, StoredMembership.ofDraft_toJson, toWord32_draft, toBool_draft, toText_draft,
      hread, once, required, bind, Except.bind, pure, Except.pure]

/-- A record is read back from any text that its value may be written as. -/
theorem ofBytes_of_written {record : LogRecord} {text : List UInt8}
    (h : Written record.toJson text) : ofBytes ⟨text.toArray⟩ = .ok record := by
  rw [ofBytes, List.toList_toArray, Json.decode, ofBytes_written h]
  simp [ofDraft_toJson]

/-- **A record is read back from its file.** -/
theorem ofBytes_toBytes (record : LogRecord) : ofBytes record.toBytes = .ok record :=
  ofBytes_of_written (written_indented record.toJson 0)

/-- **A record is trusted for its version and its checksum.** The checksum is that of the membership which
    was read, not that of bytes on file, so the layout of the file has no say. -/
theorem trusted_eq_ok_iff {bytes : ByteArray} {record : LogRecord} :
    trusted bytes = .ok record ↔ ofBytes bytes = .ok record ∧ record.format = currentFormat
      ∧ record.checksum = record.stored.checksum := by
  rw [trusted]
  cases hread : ofBytes bytes with
  | error fault => simp
  | ok read =>
    simp only [Except.ok.injEq]
    constructor
    · intro h
      by_cases hformat : read.format = currentFormat
      · rw [if_neg (not_not_intro hformat)] at h
        by_cases hsum : read.stored.checksum = read.checksum
        · rw [if_neg (not_not_intro hsum)] at h
          obtain rfl := Except.ok.inj h
          exact ⟨rfl, hformat, hsum.symm⟩
        · rw [if_pos hsum] at h
          cases h
      · rw [if_pos hformat] at h
        cases h
    · rintro ⟨rfl, hformat, hsum⟩
      rw [if_neg (not_not_intro hformat), if_neg (not_not_intro hsum.symm)]

/-- **A forced record is trusted**: its version is the one that is read, and its checksum is the one
that is computed again. -/
theorem trusted_force (now : String) (stored : StoredMembership) :
    trusted (force now stored).toBytes = .ok (force now stored) :=
  trusted_eq_ok_iff.2 ⟨ofBytes_toBytes _, rfl, rfl⟩

end LogRecord

end QuorumRescue

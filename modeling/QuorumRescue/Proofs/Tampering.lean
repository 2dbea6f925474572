/-
  Edits of a record.

  The checksum of a record is kept in the record itself, so anyone who can edit the file can also
  compute a new one.  It is a guard against torn writes and careless edits, and against them it has to
  be a good one: an edit that leaves the checksum alone must show, whatever else it does to the text.

  1. **The statement** (`LogDirectory.tampering_shows`) compares a record that members were read from
     with any other file that decodes to a record with the same checksum.  Layout does not count, since
     the checksum is taken over the membership that was read and not over the bytes of the file.  If
     members are read from the edited file too, the whole membership is the same, and so are they; or
     else the compact texts of the two memberships collide.  An edited membership whose text does not
     collide is refused wherever it is on file.

  2. **Collisions** are named and not assumed away (`Digest.Collision`): two texts that differ and have
     one digest.  Nothing is said about how hard it is to find them.  The digest is a definition like
     any other here, and nothing is used of it but its form.

  3. **The crux** is that neither step from the membership to the checksum loses anything.  The checksum
     is the digest in hexadecimal, and digits tell the digest: eight digits tell a word, and words of
     equal length tell the list (`Digest.digest_eq_of_sha256`).  Below it, the compact text tells the
     membership, since it can be read back (`StoredMembership.compact_inj`).  So one checksum means one
     digest, one digest means one text or a collision, and one text means one membership.
-/
import QuorumRescue.Proofs.Codec

namespace QuorumRescue

/-! ## Digests as text -/

namespace Digest

open QuorumRescue.Numeral

theorem digitChar_inj : ∀ a < 16, ∀ b < 16, digitChar a = digitChar b → a = b := by decide

theorem length_hexWord (w : UInt32) : (hexWord w).length = 8 := by simp [hexWord]

/-- As many digits as a number can have tell the number. -/
theorem eq_of_digits {count a b : Nat} (ha : a < Nat.pow 16 count) (hb : b < Nat.pow 16 count)
    (h : ∀ i < count, a / Nat.pow 16 i % 16 = b / Nat.pow 16 i % 16) : a = b := by
  induction count generalizing a b with
  | zero =>
    have hone : Nat.pow 16 0 = 1 := rfl
    omega
  | succ count ih =>
    have hpow : ∀ i, Nat.pow 16 (i + 1) = 16 * Nat.pow 16 i := fun i => Nat.mul_comm _ _
    have hlow : a % 16 = b % 16 := by
      have hdigit := h 0 (by omega)
      rwa [show Nat.pow 16 0 = 1 from rfl, Nat.div_one, Nat.div_one] at hdigit
    have hhigh : a / 16 = b / 16 := by
      rw [hpow] at ha hb
      apply ih
      · omega
      · omega
      · intro i hi
        have hdigit := h (i + 1) (by omega)
        rwa [hpow, ← Nat.div_div_eq_div_mul, ← Nat.div_div_eq_div_mul] at hdigit
    omega

/-- **Eight digits tell the word.** -/
theorem hexWord_inj {v w : UInt32} (h : hexWord v = hexWord w) : v = w := by
  have hv : v.toNat < Nat.pow 16 8 := v.toNat_lt
  have hw : w.toNat < Nat.pow 16 8 := w.toNat_lt
  apply UInt32.toNat_inj.1
  apply eq_of_digits hv hw
  intro i hi
  have hchar := List.map_inj_left.1 h i (by simpa using hi)
  exact digitChar_inj _ (Nat.mod_lt _ (by decide)) _ (Nat.mod_lt _ (by decide)) hchar

/-- Digits of words tell the words: each has the same number of them, so the text is cut in one way. -/
theorem flatMap_hexWord_inj {a b : List UInt32} (h : a.flatMap hexWord = b.flatMap hexWord) :
    a = b := by
  induction a generalizing b with
  | nil =>
    cases b with
    | nil => rfl
    | cons w rest =>
      have hlength := congrArg List.length h
      simp [length_hexWord] at hlength
      omega
  | cons v rest ih =>
    cases b with
    | nil =>
      have hlength := congrArg List.length h
      simp [length_hexWord] at hlength
    | cons w more =>
      simp only [List.flatMap_cons] at h
      obtain ⟨hfirst, hrest⟩ :=
        List.append_inj h ((length_hexWord v).trans (length_hexWord w).symm)
      rw [hexWord_inj hfirst, ih hrest]

/-- **The text of a digest tells the digest.** -/
theorem digest_eq_of_sha256 {a b : List UInt8} (h : sha256 a = sha256 b) : digest a = digest b :=
  flatMap_hexWord_inj (String.ofList_inj.1 h)

/-- Two messages collide if they differ and their digest does not. -/
def Collision (a b : List UInt8) : Prop := a ≠ b ∧ digest a = digest b

end Digest

/-! ## Checksums -/

namespace StoredMembership

/-- **The compact text tells the membership.** -/
theorem compact_inj {a b : StoredMembership} (h : a.toJson.compact = b.toJson.compact) : a = b := by
  have hdecode := a.decode_compact
  rw [h, b.decode_compact] at hdecode
  exact (Except.ok.inj hdecode).symm

/-- Memberships with one checksum are the same, or their compact texts collide. -/
theorem eq_or_collision {a b : StoredMembership} (h : a.checksum = b.checksum) :
    a = b ∨ Digest.Collision a.toJson.compact b.toJson.compact := by
  by_cases heq : a.toJson.compact = b.toJson.compact
  · exact Or.inl (compact_inj heq)
  · exact Or.inr ⟨heq, Digest.digest_eq_of_sha256 h⟩

end StoredMembership

/-! ## Edits -/

/-- What is wrong with a record that can be read and not trusted. -/
def LogRecord.damage (record : LogRecord) : Damage :=
  if record.format ≠ currentFormat then .unknownFormat record.format else .checksumMismatch

/-- A record whose checksum is not that of its membership is refused. -/
theorem LogRecord.trusted_of_mismatch {bytes : ByteArray} {record : LogRecord}
    (h : ofBytes bytes = .ok record) (hsum : record.checksum ≠ record.stored.checksum) :
    trusted bytes = .error record.damage := by
  rw [trusted, h]
  by_cases hformat : record.format = currentFormat
  · simp [damage, hformat, hsum.symm]
  · simp [damage, hformat]

namespace LogDirectory

variable {log : LogDirectory} {tree : Tree} {bytes : ByteArray} {members : List Member}

/-- What has been read is on file as a record that can be trusted. -/
theorem exists_trusted_of_readMembers (hread : tree.read log.recordPath = .ok bytes)
    (h : log.readMembers tree = .ok members) : ∃ record, LogRecord.trusted bytes = .ok record
      ∧ record.stored.membership.members = members := by
  obtain ⟨home, record, hholds, hmembers⟩ := readMembers_eq_ok_iff.1 h
  obtain ⟨found, hfile, htrusted⟩ := hholds.recorded
  rw [← hholds.isHome.read_eq_ok_iff isPlainName_recordName] at hfile
  obtain rfl := Except.ok.inj (hread.symm.trans hfile)
  exact ⟨record, htrusted, hmembers⟩

/-- **An edit that keeps the checksum shows.**  Say that members have been read from a record, and that
another file, of any layout, decodes to a record with the same checksum.  If members are read from
that one too, its membership is the same, with its entry, its sets of voters and its nodes, and so are
the members; or else the compact texts of the two collide.  If the membership is another one and they
do not, then the record is refused wherever it is on file. -/
theorem tampering_shows (hread : tree.read log.recordPath = .ok bytes)
    (h : log.readMembers tree = .ok members) :
    ∃ record, LogRecord.ofBytes bytes = .ok record ∧ record.stored.membership.members = members
      ∧ ∀ (edited : Tree) (bytes' : ByteArray) (record' : LogRecord),
        edited.read log.recordPath = .ok bytes' → LogRecord.ofBytes bytes' = .ok record' →
        record'.checksum = record.checksum →
          (∀ members', log.readMembers edited = .ok members' →
            (record'.stored = record.stored ∧ members' = members)
              ∨ Digest.Collision record'.stored.toJson.compact record.stored.toJson.compact)
            ∧ (log.Free edited → record'.stored ≠ record.stored →
              ¬ Digest.Collision record'.stored.toJson.compact record.stored.toJson.compact →
              log.readMembers edited = .error (.corruption log.recordPath.text record'.damage)) := by
  obtain ⟨record, htrusted, hmembers⟩ := exists_trusted_of_readMembers hread h
  obtain ⟨hrecord, -, hsum⟩ := LogRecord.trusted_eq_ok_iff.1 htrusted
  refine ⟨record, hrecord, hmembers, fun edited bytes' record' hread' hrecord' hsame => ⟨?_, ?_⟩⟩
  · intro members' hmembers'
    obtain ⟨found, htrusted', hfound⟩ := exists_trusted_of_readMembers hread' hmembers'
    obtain ⟨hdecoded, -, hsum'⟩ := LogRecord.trusted_eq_ok_iff.1 htrusted'
    obtain rfl := Except.ok.inj (hrecord'.symm.trans hdecoded)
    -- both checksums have been computed again, so the memberships have one
    rcases StoredMembership.eq_or_collision (hsum'.symm.trans (hsame.trans hsum)) with heq | hcollision
    · refine Or.inl ⟨heq, ?_⟩
      rw [← hfound, ← hmembers, heq]
    · exact Or.inr hcollision
  · intro hfree hother hnone
    refine hfree.readMembers_of_damage hread' (LogRecord.trusted_of_mismatch hrecord' ?_)
    intro hkept
    rcases StoredMembership.eq_or_collision (hkept.symm.trans (hsame.trans hsum)) with heq | hcollision
    · exact hother heq
    · exact hnone hcollision

/-- The joint membership with one vote taken away. -/
def unvotedMembership : StoredMembership :=
  { jointMembership with
    membership := { jointMembership.membership with configs := [.ofList [1, 18446744073709551615]] } }

/-- Its record, with the checksum from before. -/
def unvotedRecord : LogRecord := { jointRecord with stored := unvotedMembership }

/-- Another layout of the joint record is accepted, and tells the same members.  With one vote taken
away it is refused, since its digest is another one. -/
theorem tampering_shows_joint :
    (∃ members, loneLog.readMembers (loneTree jointRecord.toBytes) = .ok members
      ∧ loneLog.readMembers (loneTree ⟨jointRecord.toJson.compact.toArray⟩) = .ok members)
      ∧ loneLog.readMembers (loneTree unvotedRecord.toBytes)
        = .error (.corruption "raft/membership.json" .checksumMismatch) := by
  have hcompact : LogRecord.ofBytes ⟨jointRecord.toJson.compact.toArray⟩ = .ok jointRecord :=
    LogRecord.ofBytes_of_written (Json.written_compact _)
  have hread : ∀ bytes, LogRecord.ofBytes bytes = .ok jointRecord →
      ∃ home, loneLog.Holds (loneTree bytes) home jointRecord := fun bytes hbytes =>
    (free_loneTree bytes).holds (read_loneTree bytes)
      (LogRecord.trusted_eq_ok_iff.2 ⟨hbytes, rfl, rfl⟩)
  obtain ⟨home, hholds⟩ := hread _ (LogRecord.ofBytes_toBytes jointRecord)
  obtain ⟨home', hholds'⟩ := hread _ hcompact
  obtain ⟨record, hrecord, -, hshows⟩ := tampering_shows (read_loneTree _) hholds.readMembers
  obtain rfl := Except.ok.inj ((LogRecord.ofBytes_toBytes jointRecord).symm.trans hrecord)
  have hnone : ¬ Digest.Collision unvotedMembership.toJson.compact jointMembership.toJson.compact := by
    rintro ⟨-, hdigest⟩
    revert hdigest
    decide +kernel
  constructor
  · obtain ⟨hlayout, -⟩ := hshows _ _ jointRecord (read_loneTree _) hcompact rfl
    rcases hlayout _ hholds'.readMembers with ⟨-, hsame⟩ | ⟨hdiffer, -⟩
    · exact ⟨_, hholds.readMembers, hsame ▸ hholds'.readMembers⟩
    · exact absurd rfl hdiffer
  · obtain ⟨-, hrefused⟩ := hshows _ _ unvotedRecord (read_loneTree _) (LogRecord.ofBytes_toBytes _) rfl
    exact hrefused (free_loneTree _) (by decide) hnone

end LogDirectory

end QuorumRescue

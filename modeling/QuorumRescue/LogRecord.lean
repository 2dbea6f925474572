/-
  The record of a log's membership.

  The record wraps the stored membership with the version of its layout, a note on whether and when it
  was forced, and a checksum: the SHA-256 digest of the membership's compact text.

  1. **Two texts.** The file is indented, for those who look at it, and the checksum is taken over the
     compact text of what was read, not over the bytes of the file.  So indentation and the order of
     fields are free, while every id, address and vote is covered.

  2. **Trust.** A record is trusted if it can be read, is of the known version, and has the checksum of
     its own membership, in this order.  The note on forcing is not covered, and is not asked for when a
     record is read.

  3. **Other origins.** The log itself writes records with two sets of voters, with none, and without an
     entry.  They are read like those that were forced.
-/
import QuorumRescue.Digest.Sha256
import QuorumRescue.Failure
import QuorumRescue.Membership.Layout

namespace QuorumRescue

open DecodeFault (required once)

/-- A log's membership record. -/
structure LogRecord where
  format : UInt32
  forced : Bool
  forcedAt : Option String
  stored : StoredMembership
  checksum : String
deriving DecidableEq

/-- The checksum of a stored membership. -/
def StoredMembership.checksum (stored : StoredMembership) : String := Digest.sha256 stored.toJson.compact

namespace LogRecord

/-- The version of the layout that is written and read. -/
def currentFormat : UInt32 := 1

/-- The record of a membership that is forced at a time. -/
def force (now : String) (stored : StoredMembership) : LogRecord :=
  ⟨currentFormat, true, some now, stored, stored.checksum⟩

/-! ## Writing -/

def toJson (record : LogRecord) : Json :=
  .object
    ([("format", .number record.format.toNat), ("forced", .bool record.forced)]
      ++ (match record.forcedAt with
        | some time => [("forced_at", .text time)]
        | none => [])
      ++ [("membership", record.stored.toJson), ("checksum", .text record.checksum)])

/-- The bytes of the file. -/
def toBytes (record : LogRecord) : ByteArray := ⟨(record.toJson.indented 0).toArray⟩

/-! ## Reading -/

/-- The fields read so far. -/
structure Fields where
  format : Option UInt32 := none
  forced : Option Bool := none
  forcedAt : Option (Option String) := none
  stored : Option StoredMembership := none
  checksum : Option String := none

/-- Reads one field. -/
def Fields.take (fields : Fields) (name : String) (value : Json.Draft) : Except DecodeFault Fields := do
  if name = "format" then
    once name fields.format
    return { fields with format := some (← value.toWord32) }
  else if name = "forced" then
    once name fields.forced
    return { fields with forced := some (← value.toBool) }
  else if name = "forced_at" then
    once name fields.forcedAt
    return { fields with forcedAt := some (← value.toOption Json.Draft.toText) }
  else if name = "membership" then
    once name fields.stored
    return { fields with stored := some (← StoredMembership.ofDraft value) }
  else
    once name fields.checksum
    return { fields with checksum := some (← value.toText) }

/-- The fields of a record in order. -/
def fieldNames : List String := ["format", "forced", "forced_at", "membership", "checksum"]

def ofDraft (draft : Json.Draft) : Except DecodeFault LogRecord := do
  let fields ← draft.foldFields fieldNames Fields.take {}
  return {
    format := ← required "format" fields.format
    forced := fields.forced.getD false
    forcedAt := fields.forcedAt.join
    stored := ← required "membership" fields.stored
    checksum := ← required "checksum" fields.checksum }

/-- Reads a file as it stands. -/
def ofBytes (bytes : ByteArray) : Except DecodeFault LogRecord := Json.decode ofDraft bytes.data.toList

/-- Reads a file whose version is known and whose checksum holds. -/
def trusted (bytes : ByteArray) : Except Damage LogRecord :=
  match ofBytes bytes with
  | .error fault => .error (.undecodable fault)
  | .ok record =>
      if record.format ≠ currentFormat then .error (.unknownFormat record.format)
      else if record.stored.checksum ≠ record.checksum then .error .checksumMismatch
      else .ok record

end LogRecord

end QuorumRescue

/-
  IP addresses and their literals.

  An address is written in the usual text form: four decimal octets, or eight hexadecimal groups of
  which one run of zeros may be left out and the last two may be written as four octets.  Reading
  is strict where texts could mislead: an octet has no leading zero, a group has at most four
  digits, and nothing may follow.
-/
import QuorumRescue.Numeral
import QuorumRescue.Text.Split

namespace QuorumRescue.Network

/-- Four octets. -/
structure Ipv4 where
  first : UInt8
  second : UInt8
  third : UInt8
  fourth : UInt8
deriving DecidableEq, Repr

/-- An address of either family; the second one has eight groups of sixteen bits. -/
inductive Ip
  | v4 (address : Ipv4)
  | v6 (groups : List UInt16)
deriving DecidableEq, Repr

/-! ## Writing -/

/-- The four octets in decimal, with points between them. -/
def Ipv4.toText (ip : Ipv4) : List Char :=
  Numeral.decimal ip.first.toNat ++ '.' :: Numeral.decimal ip.second.toNat
    ++ '.' :: Numeral.decimal ip.third.toNat ++ '.' :: Numeral.decimal ip.fourth.toNat

/-- The addresses 127.x.x.x never leave the machine. -/
def Ipv4.isLoopback (ip : Ipv4) : Bool := ip.first == 127

/-! ## Reading -/

/-- The longest run of digits at the start, of one to `most` digits, with its value. -/
def readDigits (base most : Nat) (text : List Char) : Option (Nat × List Char × List Char) :=
  let run := text.takeWhile fun c => (Numeral.digitValueIn base c).isSome
  if run.length ≤ most then
    (Numeral.value base run).map fun n => (n, run, text.dropWhile fun c => (Numeral.digitValueIn base c).isSome)
  else none

/-- One octet: a decimal numeral below 256 without a leading zero. -/
def readOctet (text : List Char) : Option (UInt8 × List Char) :=
  match readDigits 10 3 text with
  | some (n, run, rest) =>
      if n < 256 ∧ ¬ (run.head? = some '0' ∧ 1 < run.length) then some (UInt8.ofNat n, rest) else none
  | none => none

/-- A point, then an octet. -/
def readPointOctet (text : List Char) : Option (UInt8 × List Char) :=
  (Text.dropLead ['.'] text).bind readOctet

/-- Four octets with points between them, at the start of a text. -/
def readIpv4 (text : List Char) : Option (Ipv4 × List Char) := do
  let (a, text) ← readOctet text
  let (b, text) ← readPointOctet text
  let (c, text) ← readPointOctet text
  let (d, text) ← readPointOctet text
  return (⟨a, b, c, d⟩, text)

/-- One group: a hexadecimal numeral of at most four digits. -/
def readGroup (text : List Char) : Option (UInt16 × List Char) :=
  (readDigits 16 4 text).map fun (n, _, rest) => (UInt16.ofNat n, rest)

/-- Two groups out of four octets. -/
def Ipv4.groups (ip : Ipv4) : List UInt16 :=
  [UInt16.ofNat (ip.first.toNat * 256 + ip.second.toNat),
   UInt16.ofNat (ip.third.toNat * 256 + ip.fourth.toNat)]

/-- What a run of groups turned out to be. -/
structure GroupRun where
  groups : List UInt16
  endsInOctets : Bool
  rest : List Char

/-- At most `room` groups with colons between them; four octets may stand for the last two. -/
def readGroups : (room : Nat) → (first : Bool) → List Char → GroupRun
  | 0, _, text => ⟨[], false, text⟩
  | room + 1, first, text =>
      match (if first then some text else Text.dropLead [':'] text) with
      | none => ⟨[], false, text⟩
      | some body =>
          match (if room = 0 then none else readIpv4 body) with
          | some (ip, rest) => ⟨ip.groups, true, rest⟩
          | none =>
              match readGroup body with
              | none => ⟨[], false, text⟩
              | some (g, rest) =>
                  let more := readGroups room false rest
                  { more with groups := g :: more.groups }

/-- An eight-group address that fills the whole text. -/
def readIpv6 (text : List Char) : Option (List UInt16) :=
  let head := readGroups 8 true text
  if head.groups.length = 8 then
    if head.rest.isEmpty then some head.groups else none
  else if head.endsInOctets then none
  else
    match Text.dropLead [':', ':'] head.rest with
    | none => none
    | some body =>
        let tail := readGroups (7 - head.groups.length) true body
        if tail.rest.isEmpty then
          some (head.groups
            ++ List.replicate (8 - head.groups.length - tail.groups.length) 0 ++ tail.groups)
        else none

/-- An address literal that fills the whole text. -/
def Ip.read (text : List Char) : Option Ip :=
  match readIpv4 text with
  | some (ip, rest) => if rest.isEmpty then some (.v4 ip) else none
  | none => (readIpv6 text).map .v6

/-- Whether the text is an eight-group literal. -/
def isIpv6Literal (text : List Char) : Bool :=
  match Ip.read text with
  | some (.v6 _) => true
  | _ => false

/-! ## The two families -/

/-- The four-octet address that an address stands for: itself, or the one mapped into the block
`::ffff:0:0/96`. -/
def Ip.asIpv4 : Ip → Option Ipv4
  | .v4 ip => some ip
  | .v6 [0, 0, 0, 0, 0, 0xFFFF, hi, lo] =>
      some ⟨UInt8.ofNat (hi.toNat / 256), UInt8.ofNat (hi.toNat % 256),
        UInt8.ofNat (lo.toNat / 256), UInt8.ofNat (lo.toNat % 256)⟩
  | .v6 _ => none

example : isIpv6Literal [':', ':', '1'] = true := by decide
example : isIpv6Literal ['1', ':', '2'] = false := by decide

end QuorumRescue.Network

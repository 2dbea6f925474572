/-
  The registry's texts, read back as members.

  The lexer finds the tokens of a registry's text.  What is made of them is a tree of nodes, and out of
  the tree come members.  This file follows a record through both steps, and says that it comes out as
  it went in.

  1. **The nodes.** `recordNode` is the mapping of three keys and scalars that a record should be, and a
     list should be a sequence of such mappings.

  2. **From tokens to nodes.** The tokens of a record make up its node (`readNode_record`), by
     computation, since their number is fixed.  Those of a list make up the nodes of its records
     (`readItems_records`), by induction along the list.  The reader's fuel is the number of tokens,
     with room to spare (`length_items`).

  3. **The crux** is from nodes to members (`memberOfNode_recordNode`).  A mapping is taken apart field
     by field, and every field finds what it was made of: the numeral its number, the text itself, the
     word its role.  A numeral has to be read as decimal and not as one of the other ways to write a
     number, and it is, since no zero stands in front of its digits (`natural_decimal`).

  4. **The results.** What is written for a member, or for a list of them, is read back as it was
     (`readInfo_infoText`, `readCluster_clusterText`).  No list is an exception, and none needs to be in
     order.
-/
import QuorumRescue.Proofs.Layout

namespace QuorumRescue.Registry

open QuorumRescue.Yaml

/-! ## Numerals -/

/-- A numeral of more than one digit does not start with a zero. -/
theorem decimal_ne_zero_cons (n : Nat) (c : Char) (rest : List Char) :
    Numeral.decimal n ≠ '0' :: c :: rest := by
  intro h
  have hdigits : Json.digits n = 0x30 :: UInt8.ofNat c.toNat :: Json.ascii rest := by
    rw [Json.digits, h]
    rfl
  exact Json.digits_head hdigits rfl

/-- Without a sign and without a zero before other digits, digits are read as decimal ones. -/
theorem natural_eq_value {text : List Char} (hzero : ∀ c rest, text ≠ '0' :: c :: rest)
    (hplus : ∀ rest, text ≠ '+' :: rest) (hminus : ∀ rest, text ≠ '-' :: rest) :
    natural text = Numeral.value 10 text := by
  -- none of the other ways to write a number begins as such a text does
  have hled : ledValue text = none := by
    unfold ledValue
    split
    · next rest => exact absurd rfl (hzero 'x' rest)
    · next rest => exact absurd rfl (hzero 'o' rest)
    · next rest => exact absurd rfl (hzero 'b' rest)
    · rfl
  have hunsigned : unsigned text = text := by
    unfold unsigned
    split
    · next rest => exact absurd rfl (hminus rest)
    · next rest => exact absurd rfl (hplus rest)
    · rfl
  have hpadded : isZeroPadded text = false := by
    unfold isZeroPadded
    rw [hunsigned]
    split
    · next c rest => exact absurd rfl (hzero c rest)
    · rfl
  unfold natural
  split
  · next rest => exact absurd rfl (hplus rest)
  · simp only [hled, hpadded]
    rfl

/-- **A decimal numeral is read as its number**, and as nothing else.  Without a sign and without a zero in
    front of other digits, a text can only be decimal. -/
theorem natural_decimal (n : Nat) : natural (Numeral.decimal n) = some n := by
  have hfirst : ∀ c rest, Numeral.decimal n = c :: rest → isPlainChar c = true := by
    intro c rest h
    have hdigits := isPlainChar_decimal n
    rw [h, List.all_cons, Bool.and_eq_true] at hdigits
    exact hdigits.1
  -- neither of the two signs is a digit
  have hplus : ∀ rest, Numeral.decimal n ≠ '+' :: rest := by
    intro rest h
    exact absurd (hfirst '+' rest h) (by decide)
  have hminus : ∀ rest, Numeral.decimal n ≠ '-' :: rest := by
    intro rest h
    exact absurd (hfirst '-' rest h) (by decide)
  rw [natural_eq_value (decimal_ne_zero_cons n) hplus hminus, Numeral.value_decimal]

/-! ## Nodes -/

/-- The node of a key, and the one of its value. -/
def fieldNodes (name : List Char) (style : Style) (text : List Char) : List Node :=
  [.scalar none .plain name, .scalar none style text]

/-- The node of a record. -/
def recordNode (member : Member) : Node :=
  .mapping none (fieldNodes idKey .plain (Numeral.decimal member.id.toNat)
    ++ fieldNodes addressKey (styleOf member.address.toList) member.address.toList
    ++ fieldNodes roleKey .plain member.role.word.toList)

section

variable {named : List Named} {handles : List (List Char × List Char)} {rest : List Token}

/-- **The tokens of a record make up its node.** -/
theorem readNode_record (fuel : Nat) (member : Member) :
    readNode (fuel + 10) true false ⟨recordTokens member ++ .blockEnd :: rest, named, handles⟩
      = (recordNode member, some ⟨rest, named, handles⟩) := rfl

/-- So do the tokens of an item, behind its dash. -/
theorem readUnless_record (fuel : Nat) (member : Member) :
    readUnless (fuel + 11) [.dash, .blockEnd] true false
        ⟨recordTokens member ++ .blockEnd :: rest, named, handles⟩
      = (recordNode member, some ⟨rest, named, handles⟩) := readNode_record fuel member

theorem andThen_of_some (node : Node) (r : Reader) (next : Reader → Reading (List Node)) :
    andThen (node, some r) next = (node :: (next r).1, (next r).2) := rfl

/-- **The items of a list make up the nodes of its records**, in order.  The induction is along the list,
    with one unit of fuel for each item on top of what a record takes. -/
theorem readItems_records (fuel : Nat) (members : List Member) :
    readItems (fuel + members.length + 12)
        ⟨members.flatMap itemTokens ++ .blockEnd :: rest, named, handles⟩
      = (members.map recordNode, some ⟨rest, named, handles⟩) := by
  induction members with
  | nil => rfl
  | cons member more ih =>
    have htokens : (member :: more).flatMap itemTokens ++ .blockEnd :: rest
        = .dash :: (recordTokens member ++ .blockEnd :: (more.flatMap itemTokens ++ .blockEnd :: rest)) := by
      simp [itemTokens]
    have hitem := @readUnless_record named handles (more.flatMap itemTokens ++ .blockEnd :: rest)
      (fuel + more.length + 1) member
    have hstep : readItems (fuel + (member :: more).length + 12)
          ⟨.dash :: (recordTokens member ++ .blockEnd :: (more.flatMap itemTokens ++ .blockEnd :: rest)),
            named, handles⟩
        = andThen (readUnless (fuel + more.length + 1 + 11) [.dash, .blockEnd] true false
            ⟨recordTokens member ++ .blockEnd :: (more.flatMap itemTokens ++ .blockEnd :: rest), named,
              handles⟩) (readItems (fuel + more.length + 12)) := rfl
    rw [htokens, hstep, hitem, andThen_of_some, ih]
    rfl

/-- **The tokens of a list make up a sequence.** -/
theorem readNode_records (fuel : Nat) (members : List Member) :
    readNode (fuel + members.length + 13) true false
        ⟨.sequenceBlock :: (members.flatMap itemTokens ++ .blockEnd :: rest), named, handles⟩
      = (.sequence none (members.map recordNode), some ⟨rest, named, handles⟩) := by
  have hstep : readNode (fuel + members.length + 13) true false
        ⟨.sequenceBlock :: (members.flatMap itemTokens ++ .blockEnd :: rest), named, handles⟩
      = closeNode ⟨none, none⟩ named.length (.sequence none) (readItems (fuel + members.length + 12)
          ⟨members.flatMap itemTokens ++ .blockEnd :: rest, named, handles⟩) := rfl
  rw [hstep, readItems_records]
  rfl

end

theorem length_items (members : List Member) :
    (members.flatMap itemTokens).length = 15 * members.length := by
  induction members with
  | nil => rfl
  | cons member more ih =>
    have hitem : (itemTokens member).length = 15 := rfl
    rw [List.flatMap_cons, List.length_append, hitem, ih, List.length_cons]
    omega

/-! ## Documents -/

/-- The content of a document is the node at its start. -/
theorem readContent_of_readNode {tokens rest : List Token} {handles : List (List Char × List Char)}
    {node : Node} (h : readNode (4 * tokens.length + 4) true false ⟨tokens, [], standardHandles⟩
      = (node, some ⟨rest, [], handles⟩)) : readContent [] tokens = ⟨node, endsText rest⟩ := by
  unfold readContent
  rw [List.nil_append]
  simp only [h]

/-- **A record that stands alone is a whole document.** -/
theorem read_infoText (member : Member) :
    Document.read (infoText member) = ⟨recordNode member, true⟩ := by
  rw [Document.read, tokens_infoText]
  rfl

/-- **So is a list**, even one of no members. -/
theorem read_clusterText (members : List Member) :
    Document.read (clusterText members) = ⟨.sequence none (members.map recordNode), true⟩ := by
  cases members with
  | nil => rfl
  | cons member more =>
    -- there are more steps than tokens
    have hfuel : 4 * (Token.sequenceBlock :: ((member :: more).flatMap itemTokens
          ++ [.blockEnd, .streamEnd])).length + 4
        = 59 * (member :: more).length + 3 + (member :: more).length + 13 := by
      rw [List.length_cons, List.length_append, length_items]
      simp only [List.length_cons, List.length_nil]
      omega
    have hcontent : ∀ rest, Document.ofTokens (.sequenceBlock :: rest)
        = readContent [] (.sequenceBlock :: rest) := fun _ => rfl
    rw [Document.read, tokens_clusterText (List.cons_ne_nil _ _), List.cons_append, hcontent,
      readContent_of_readNode (hfuel ▸ readNode_records _ (member :: more))]
    rfl

/-! ## Members -/

theorem toWord_decimal (id : UInt64) (tag : Option (List Char)) :
    (Node.scalar tag .plain (Numeral.decimal id.toNat)).toWord = .ok id := by
  have hbound : id.toNat < UInt64.size := id.toNat_lt
  simp [Node.toWord, Node.toNatural, Node.follow, natural_decimal, hbound, Except.map]

theorem toChoice_word (role : Role) :
    (Node.scalar none .plain role.word.toList).toChoice Role.ofWord? = .ok role := by
  cases role <;> rfl

/-- A field that the layout names is handed over, and the next fields come after it. -/
theorem foldParts_field {fields after : Fields} {name : String} {style : Style} {text : List Char}
    {rest : List Node} (key : List Char) (hkey : String.ofList key = name) (hname : name ∈ fieldNames)
    (htake : fields.take name (.scalar none style text) = .ok after) :
    Node.foldParts fieldNames Fields.take fields (fieldNodes key style text ++ rest)
      = Node.foldParts fieldNames Fields.take after rest := by
  have htext : (Node.scalar none .plain key).toText = .ok name := congrArg Except.ok hkey
  have hcontains : fieldNames.contains name = true := List.contains_iff_mem.2 hname
  simp only [fieldNodes, List.cons_append, List.nil_append, Node.foldParts, htext, hcontains, if_true,
    htake]

/-- **A record's node is taken apart into the member it was made of.** The address comes back whatever its
    scalar looks like, since the text of a scalar is the text that was written. -/
theorem memberOfNode_recordNode (member : Member) : memberOfNode (recordNode member) = .ok member := by
  -- each field is taken from its own scalar, on top of those before it
  have hid : Fields.take {} "id" (.scalar none .plain (Numeral.decimal member.id.toNat))
      = .ok ⟨some member.id, none, none⟩ := by
    rw [Fields.take, if_pos rfl, toWord_decimal]
    rfl
  have haddress : Fields.take ⟨some member.id, none, none⟩ "address"
        (.scalar none (styleOf member.address.toList) member.address.toList)
      = .ok ⟨some member.id, some (String.ofList member.address.toList), none⟩ := rfl
  have hrole : ∀ address, Fields.take ⟨some member.id, address, none⟩ "role"
        (.scalar none .plain member.role.word.toList)
      = .ok ⟨some member.id, address, some member.role⟩ := by
    intro address
    rw [Fields.take, if_neg (by decide), if_neg (by decide), toChoice_word]
    rfl
  rw [String.ofList_toList] at haddress
  have hfields : (recordNode member).foldFields fieldNames Fields.take {}
      = .ok ⟨some member.id, some member.address, some member.role⟩ := by
    show Node.foldParts fieldNames Fields.take {} (fieldNodes idKey _ _ ++ (fieldNodes addressKey _ _
      ++ (fieldNodes roleKey _ _ ++ []))) = _
    rw [foldParts_field idKey rfl (by decide) hid, foldParts_field addressKey rfl (by decide) haddress,
      foldParts_field roleKey rfl (by decide) (hrole _)]
    rfl
  rw [memberOfNode, hfields]
  rfl

theorem readAll_records (members : List Member) :
    Node.readAll memberOfNode (members.map recordNode) = .ok members := by
  induction members with
  | nil => rfl
  | cons member more ih =>
    rw [List.map_cons, Node.readAll, memberOfNode_recordNode, ih]

/-! ## Bytes -/

theorem decode_toUTF8 {α : Type} (read : Node → Except DecodeFault α) (text : List Char) :
    decode read (String.ofList text).toUTF8 = decodeText read text := by
  simp only [decode, Json.fromUTF8?_toUTF8, String.toList_ofList]

/-- A sound document whose tree is taken apart is read. -/
theorem decodeText_eq_ok {α : Type} {read : Node → Except DecodeFault α} {text : List Char} {root : Node}
    {value : α} (hdocument : Document.read text = ⟨root, true⟩) (hread : read root = .ok value) :
    decodeText read text = .ok value := by
  simp only [decodeText, hdocument, hread, if_true]

/-- **A node's own record is read back as it was written.** -/
theorem readInfo_infoText (member : Member) :
    readInfo (String.ofList (infoText member)).toUTF8 = .ok member := by
  rw [readInfo, decode_toUTF8]
  exact decodeText_eq_ok (read_infoText member) (memberOfNode_recordNode member)

/-- **A list of members is read back as it was written**: the same members, in the same order. -/
theorem readCluster_clusterText (members : List Member) :
    readCluster (String.ofList (clusterText members)).toUTF8 = .ok members := by
  rw [readCluster, decode_toUTF8]
  exact decodeText_eq_ok (read_clusterText members) (readAll_records members)

end QuorumRescue.Registry

import AcceleratorTrace.Proofs.DescriptorValues

/-!
# What the text of a descriptor says

The text of a run descriptor is an object or an array.  In an object its members stand in
any order, with any spelling of their names, blanks between the marks and other members
among them; in an array the values stand in declaration order.  Both are read as the
descriptor that they say.  Of a text that names a member twice, or gives it an integer that
does not fit, no descriptor is read.
-/

namespace AcceleratorTrace.Descriptor

open Json (Blank Delimited NumberText Spells Written integerText)
open Reading

/-- A member of an object: a name in some spelling and any value. -/
structure Entry where
  name : String
  key : List Char
  value : List Char
  beforeKey : List Char
  beforeColon : List Char
  beforeValue : List Char
  afterValue : List Char
  spells : Spells name.toList key
  written : Written value
  blankBeforeKey : Blank beforeKey
  blankBeforeColon : Blank beforeColon
  blankBeforeValue : Blank beforeValue
  blankAfterValue : Blank afterValue

namespace Entry

/-- The text after the opening quote of the key. -/
def tail (entry : Entry) : List Char :=
  entry.key ++ '"' :: (entry.beforeColon ++ ':' ::
    (entry.beforeValue ++ (entry.value ++ entry.afterValue)))

def text (entry : Entry) : List Char := entry.beforeKey ++ '"' :: entry.tail

/-- The member of a descriptor that has this name. -/
def member? (entry : Entry) : Option Member := Member.ofName? entry.name

end Entry

/-- An element of an array. -/
structure Element where
  value : List Char
  before : List Char
  after : List Char
  written : Written value
  blankBefore : Blank before
  blankAfter : Blank after

def Element.text (element : Element) : List Char :=
  element.before ++ (element.value ++ element.after)

/-- The text of an object, with blanks around it. -/
structure ObjectText where
  entries : List Entry
  before : List Char
  after : List Char
  blankBefore : Blank before
  blankAfter : Blank after

/-- The text of an array, with blanks around it. -/
structure ArrayText where
  elements : List Element
  before : List Char
  after : List Char
  blankBefore : Blank before
  blankAfter : Blank after

def ObjectText.text (object : ObjectText) : List Char :=
  object.before ++ '\x7b' :: ([','].intercalate (object.entries.map Entry.text) ++
    '\x7d' :: object.after)

def ArrayText.text (array : ArrayText) : List Char :=
  array.before ++ '[' :: ([','].intercalate (array.elements.map Element.text) ++
    ']' :: array.after)

/-- The members of a descriptor that the object names, as often as it names them. -/
def ObjectText.members (object : ObjectText) : List Member :=
  object.entries.filterMap Entry.member?

/-- The object gives every member of the descriptor once, unless it may be left out. -/
structure ObjectText.Gives (object : ObjectText) (descriptor : Descriptor) : Prop where
  once : object.members.Nodup
  given : ∀ entry ∈ object.entries, ∀ member, entry.member? = some member →
    descriptor.Gives member entry.value
  omitted : ∀ member, member ∉ object.members → descriptor.Omits member

/-- The elements give these members in order; members left off at the end may be left out. -/
inductive Listed (descriptor : Descriptor) : List Member → List Element → Prop where
  | nil : Listed descriptor [] []
  | given {member : Member} {members : List Member} {element : Element}
      {elements : List Element} (gives : descriptor.Gives member element.value)
      (later : Listed descriptor members elements) :
      Listed descriptor (member :: members) (element :: elements)
  | omitted {member : Member} {members : List Member} (omits : descriptor.Omits member)
      (later : Listed descriptor members []) : Listed descriptor (member :: members) []

def ArrayText.Gives (array : ArrayText) (descriptor : Descriptor) : Prop :=
  Listed descriptor Member.all array.elements

/-- The value is an integer that the member cannot hold. -/
def Overflows (member : Member) (value : List Char) : Prop :=
  ∃ integer least greatest, value = integerText integer ∧
    member.range? = some (least, greatest) ∧ ¬ (least ≤ integer ∧ integer ≤ greatest)

/-- The member is read from some text that starts with the value. -/
def Accepts (member : Member) (value : List Char) : Prop :=
  ∃ (draft : Draft) (before rest : List Char) (result : Draft × List Char), Blank before ∧
    Delimited rest ∧ draft.fill member (before ++ (value ++ rest)) = .ok result

theorem Accepts.not_overflows {member : Member} {value : List Char}
    (accepts : Accepts member value) : ¬ Overflows member value := by
  rintro ⟨integer, least, greatest, rfl, range, outside⟩
  obtain ⟨draft, before, rest, result, isBefore, delimited, read⟩ := accepts
  exact outside (Draft.fill_inRange range isBefore delimited read)

theorem skipValue_written {before value rest : List Char} (isBefore : Blank before)
    (written : Written value) (delimited : Delimited rest) :
    Json.skipValue (before ++ (value ++ rest)) = .ok rest := by
  rw [Json.skipValue, Json.skipValueWith_blank isBefore]
  apply written.skips delimited
  simp only [List.length_append]
  omega

variable {rest : List Char}

theorem Entry.readMember (entry : Entry) (draft : Draft) (delimited : Delimited rest) :
    readMember draft (entry.tail ++ rest) =
      match entry.member? with
      | none => .ok (draft, entry.afterValue ++ rest)
      | some member =>
          if draft.has member then fail (.duplicateField member.name)
          else draft.fill member
            (entry.beforeValue ++ (entry.value ++ (entry.afterValue ++ rest))) := by
  have colon := Json.expectMark_blank entry.blankBeforeColon
    (show Json.isSpace ':' = false from rfl)
    (entry.beforeValue ++ (entry.value ++ (entry.afterValue ++ rest)))
  have value := skipValue_written entry.blankBeforeValue entry.written
    (Json.delimited_blank entry.blankAfterValue delimited)
  simp only [tail, List.append_assoc, List.cons_append]
  rw [Descriptor.readMember, entry.spells.readString]
  simp only [ofText, Except.mapError, bind, Except.bind, String.ofList_toList, colon, value]
  rw [member?]
  cases Member.ofName? entry.name <;> rfl

theorem Entry.readMember_gives {descriptor : Descriptor} {entry : Entry} {seen : Finset Member}
    (given : ∀ member, entry.member? = some member → descriptor.Gives member entry.value)
    (fresh : ∀ member, entry.member? = some member → member ∉ seen)
    (delimited : Delimited rest) :
    Descriptor.readMember (descriptor.draftOf seen) (entry.tail ++ rest) =
      .ok (descriptor.draftOf (seen ∪ entry.member?.toFinset), entry.afterValue ++ rest) := by
  rw [entry.readMember _ delimited]
  cases found : entry.member? with
  | none => simp
  | some member =>
      have absent : ¬ (descriptor.draftOf seen).has member = true := by
        rw [has_draftOf, decide_eq_true_eq]
        exact fresh member found
      have after := Json.delimited_blank entry.blankAfterValue delimited
      simp only [if_neg absent]
      rw [(given member found).fill entry.blankBeforeValue after, Option.toFinset_some,
        Finset.union_comm, Finset.singleton_union]

/-- The members that these entries name are all different and new to the draft, and their
values are accepted. -/
structure Sound (draft : Draft) (entries : List Entry) : Prop where
  once : (entries.filterMap Entry.member?).Nodup
  fresh : ∀ member ∈ entries.filterMap Entry.member?, draft.has member = false
  accepted : ∀ entry ∈ entries, ∀ member, entry.member? = some member →
    Accepts member entry.value

/-- Reading a member leaves no part of it behind, and the entries after it are to be new
to what it leaves. -/
theorem Entry.of_readMember {entry : Entry} {draft next : Draft} {left : List Char}
    (delimited : Delimited rest)
    (read : Descriptor.readMember draft (entry.tail ++ rest) = .ok (next, left)) :
    left = entry.afterValue ++ rest ∧
      ∀ entries, Sound next entries → Sound draft (entry :: entries) := by
  have after := Json.delimited_blank entry.blankAfterValue delimited
  rw [entry.readMember draft delimited] at read
  cases found : entry.member? with
  | none =>
      rw [found] at read
      obtain ⟨rfl, rfl⟩ := Prod.mk.inj (Except.ok.inj read)
      refine ⟨rfl, fun entries sound => ⟨?_, ?_, ?_⟩⟩
      · rw [List.filterMap_cons_none found]
        exact sound.once
      · rw [List.filterMap_cons_none found]
        exact sound.fresh
      · rw [List.forall_mem_cons]
        exact ⟨by simp [found], sound.accepted⟩
  | some member =>
      rw [found] at read
      simp only at read
      split at read
      · contradiction
      · next absent =>
          have accepts : Accepts member entry.value :=
            ⟨draft, _, _, _, entry.blankBeforeValue, after, read⟩
          refine ⟨Draft.fill_rest entry.blankBeforeValue entry.written after read,
            fun entries sound => ?_⟩
          -- The draft has this member now, so that no later one can be it.
          have other : ∀ later ∈ entries.filterMap Entry.member?,
              later ≠ member ∧ draft.has later = false := by
            intro later named
            have new := sound.fresh later named
            rw [Draft.has_fill read, Bool.or_eq_false_iff, decide_eq_false_iff_not] at new
            exact new
          refine ⟨?_, ?_, ?_⟩
          · rw [List.filterMap_cons_some found, List.nodup_cons]
            exact ⟨fun named => (other member named).1 rfl, sound.once⟩
          · rw [List.filterMap_cons_some found, List.forall_mem_cons]
            exact ⟨by simpa using absent, fun later named => (other later named).2⟩
          · rw [List.forall_mem_cons]
            refine ⟨?_, sound.accepted⟩
            rw [found]
            rintro _ ⟨⟩
            exact accepts

/-- Items that follow a first one, each after a comma. -/
def following (items : List (List Char)) : List Char := items.flatMap fun item => ',' :: item

theorem intercalate_cons (first : List Char) (more : List (List Char)) :
    [','].intercalate (first :: more) = first ++ following more := by
  induction more generalizing first with
  | nil => simp [List.intercalate, following]
  | cons second more induction =>
      have step : [','].intercalate (first :: second :: more) =
          first ++ ',' :: [','].intercalate (second :: more) := by
        simp [List.intercalate]
      rw [step, induction]
      simp [following]

theorem following_cons (item : List Char) (items : List (List Char)) (text : List Char) :
    following (item :: items) ++ text = ',' :: (item ++ (following items ++ text)) := by
  simp [following]

theorem delimited_following (items : List (List Char)) (closed : Delimited rest) :
    Delimited (following items ++ rest) := by
  cases items with
  | nil => exact closed
  | cons item items =>
      exact Json.delimited_cons (show Json.isDelimiter ',' = true from rfl) _

theorem delimited_brace (rest : List Char) : Delimited ('\x7d' :: rest) :=
  Json.delimited_cons rfl rest

theorem length_le_following (items : List (List Char)) :
    items.length ≤ (following items).length := by
  induction items with
  | nil => exact Nat.le_refl _
  | cons item items induction =>
      simp only [following, List.flatMap_cons, List.length_append, List.length_cons] at induction ⊢
      omega

theorem readMoreMembers_cons {blank : List Char} (isBlank : Blank blank) (entry : Entry)
    (text : List Char) (fuel : Nat) (draft : Draft) :
    readMoreMembers (fuel + 1) draft (blank ++ ',' :: (entry.text ++ text)) =
      (readMember draft (entry.tail ++ text)).bind fun (draft, rest) =>
        readMoreMembers fuel draft rest := by
  rw [readMoreMembers, Json.skipSpace_blank_solid isBlank rfl, Entry.text, List.append_assoc,
    List.cons_append]
  simp only [ofText, Except.mapError, bind, Except.bind,
    Json.expectMark_blank entry.blankBeforeKey (show Json.isSpace '"' = false from rfl)]

theorem readMoreMembers_nil {blank : List Char} (isBlank : Blank blank) (fuel : Nat)
    (draft : Draft) :
    readMoreMembers (fuel + 1) draft (blank ++ '\x7d' :: rest) = .ok (draft, rest) := by
  rw [readMoreMembers, Json.skipSpace_blank_solid isBlank rfl]
  rfl

theorem readMoreMembers_gives {descriptor : Descriptor} {entries : List Entry} {fuel : Nat}
    (enough : entries.length < fuel) (once : (entries.filterMap Entry.member?).Nodup)
    (given : ∀ entry ∈ entries, ∀ member, entry.member? = some member →
      descriptor.Gives member entry.value)
    {seen : Finset Member} (fresh : ∀ member ∈ entries.filterMap Entry.member?, member ∉ seen)
    {blank : List Char} (isBlank : Blank blank) :
    readMoreMembers fuel (descriptor.draftOf seen)
        (blank ++ (following (entries.map Entry.text) ++ '\x7d' :: rest)) =
      .ok (descriptor.draftOf (seen ∪ (entries.filterMap Entry.member?).toFinset), rest) := by
  induction entries generalizing fuel seen blank with
  | nil =>
      obtain ⟨fuel, rfl⟩ := Nat.exists_eq_add_of_lt enough
      simpa [following] using readMoreMembers_nil isBlank _ (descriptor.draftOf seen)
  | cons entry entries induction =>
      obtain ⟨fuel, rfl⟩ := Nat.exists_eq_add_of_lt (Nat.zero_lt_of_lt enough)
      have closed := delimited_following (entries.map Entry.text) (delimited_brace rest)
      have inLater : ∀ member ∈ entries.filterMap Entry.member?, member ∉ entry.member?.toFinset ∧
          member ∉ seen := by
        intro member named
        cases found : entry.member? with
        | none =>
            rw [List.filterMap_cons_none found] at fresh
            exact ⟨by simp, fresh member named⟩
        | some first =>
            rw [List.filterMap_cons_some found] at fresh once
            refine ⟨?_, fresh member (List.mem_cons_of_mem _ named)⟩
            rw [Option.toFinset_some, Finset.mem_singleton]
            rintro rfl
            exact (List.nodup_cons.mp once).1 named
      have members : entry.member?.toFinset ∪ (entries.filterMap Entry.member?).toFinset =
          ((entry :: entries).filterMap Entry.member?).toFinset := by
        cases found : entry.member? with
        | none => simp [found]
        | some first => simp [found]
      rw [List.forall_mem_cons] at given
      rw [List.map_cons, following_cons, readMoreMembers_cons isBlank,
        Entry.readMember_gives given.1 ?_ closed]
      · refine (induction (by simp at enough; omega) ?_ given.2 ?_ entry.blankAfterValue).trans ?_
        · exact once.sublist (List.Sublist.filterMap _ (List.sublist_cons_self _ _))
        · intro member named
          rw [Finset.mem_union, not_or]
          exact (inLater member named).symm
        · rw [Finset.union_assoc, members]
      · intro member found
        exact fresh member (List.mem_filterMap.mpr ⟨entry, List.mem_cons_self, found⟩)

theorem sound_of_readMoreMembers {entries : List Entry} {fuel : Nat} {draft : Draft}
    {blank : List Char} (isBlank : Blank blank) {result : Draft × List Char}
    (read : readMoreMembers fuel draft
      (blank ++ (following (entries.map Entry.text) ++ '\x7d' :: rest)) = .ok result) :
    Sound draft entries := by
  induction entries generalizing fuel draft blank with
  | nil => exact ⟨List.nodup_nil, nofun, nofun⟩
  | cons entry entries induction =>
      cases fuel with
      | zero => contradiction
      | succ fuel =>
          have closed := delimited_following (entries.map Entry.text) (delimited_brace rest)
          rw [List.map_cons, following_cons, readMoreMembers_cons isBlank] at read
          obtain ⟨⟨next, left⟩, first, later⟩ := bind_eq_ok read
          obtain ⟨rfl, sound⟩ := Entry.of_readMember closed first
          exact sound entries (induction entry.blankAfterValue later)

theorem readMembers_cons (entry : Entry) (text : List Char) :
    readMembers (entry.text ++ text) =
      (readMember {} (entry.tail ++ text)).bind fun (draft, rest) =>
        readMoreMembers (rest.length + 1) draft rest := by
  rw [readMembers, Entry.text, List.append_assoc, List.cons_append,
    Json.skipSpace_blank_solid entry.blankBeforeKey rfl]
  rfl

/-- The first member is read as if a comma stood before it. -/
theorem readMembers_eq {entry : Entry} {text left : List Char} {draft : Draft}
    (read : readMember {} (entry.tail ++ text) = .ok (draft, left)) :
    readMembers (entry.text ++ text) =
      readMoreMembers (left.length + 2) {} ([] ++ ',' :: (entry.text ++ text)) := by
  rw [readMoreMembers_cons Json.blank_nil, readMembers_cons, read]
  rfl

theorem parse_eq_ok_iff {text : List Char} {descriptor : Descriptor} :
    parse (String.ofList text) = .ok descriptor ↔
      ∃ left, read text = .ok (descriptor, left) ∧ Json.skipSpace left = [] := by
  rw [parse, String.toList_ofList]
  constructor
  · intro parsed
    obtain ⟨⟨found, left⟩, read, ended⟩ := bind_eq_ok parsed
    simp only at ended
    split at ended
    · next empty =>
        obtain rfl := Except.ok.inj ended
        exact ⟨left, read, List.isEmpty_iff.mp empty⟩
    · contradiction
  · rintro ⟨left, read, ended⟩
    rw [read]
    simp only [bind, Except.bind, ended]
    rfl

namespace ObjectText

variable {object : ObjectText}

/-- What stands after the opening brace. -/
def inner (object : ObjectText) : List Char :=
  [','].intercalate (object.entries.map Entry.text) ++ '\x7d' :: object.after

theorem read_text (object : ObjectText) : read object.text = readObject object.inner := by
  rw [read, text, Json.skipSpace_blank_solid object.blankBefore rfl]
  rfl

theorem inner_cons {first : Entry} {more : List Entry} (split : object.entries = first :: more) :
    object.inner =
      first.text ++ (following (more.map Entry.text) ++ '\x7d' :: object.after) := by
  rw [inner, split, List.map_cons, intercalate_cons, List.append_assoc]

theorem Gives.parse {descriptor : Descriptor} (gives : object.Gives descriptor) :
    parse (String.ofList object.text) = .ok descriptor := by
  have nothing : ({} : Draft) = descriptor.draftOf ∅ := rfl
  cases split : object.entries with
  | nil =>
      have chip := gives.omitted .chip (by rw [members, split]; exact List.not_mem_nil)
      exact absurd chip not_false
  | cons first more =>
      obtain ⟨once, given, omitted⟩ := gives
      have closed := delimited_following (more.map Entry.text) (delimited_brace object.after)
      rw [members, split] at once
      rw [split] at given
      have firstRead := Entry.readMember_gives (given first List.mem_cons_self)
        (fun _ _ => Finset.notMem_empty _) closed
      have enough := length_le_following (more.map Entry.text)
      rw [← nothing] at firstRead
      have all := readMembers_eq firstRead
      rw [← following_cons, ← List.map_cons, nothing,
        readMoreMembers_gives ?_ once given (fun _ _ => Finset.notMem_empty _)
          Json.blank_nil] at all
      · rw [parse_eq_ok_iff, read_text, inner_cons split]
        refine ⟨object.after, ?_, object.blankAfter.skipSpace⟩
        rw [readObject, all]
        simp only [bind, Except.bind]
        rw [complete_draftOf]
        · rfl
        · intro member missing
          apply omitted
          rw [members, split]
          simpa using missing
      · simp only [List.length_append, List.length_cons, List.length_map] at enough ⊢
        omega

theorem sound_of_parse {descriptor : Descriptor}
    (parsed : Descriptor.parse (String.ofList object.text) = .ok descriptor) :
    Sound {} object.entries := by
  obtain ⟨left, read, -⟩ := parse_eq_ok_iff.mp parsed
  rw [read_text] at read
  obtain ⟨⟨draft, inside⟩, members, -⟩ := bind_eq_ok read
  cases split : object.entries with
  | nil => exact ⟨List.nodup_nil, nofun, nofun⟩
  | cons first more =>
      rw [inner_cons split] at members
      have both := members
      rw [readMembers_cons] at both
      obtain ⟨⟨next, left⟩, firstRead, -⟩ := bind_eq_ok both
      rw [readMembers_eq firstRead, ← following_cons, ← List.map_cons] at members
      exact sound_of_readMoreMembers Json.blank_nil members

end ObjectText

/-- Reads a member as the next element of an array. -/
def readField (member : Member) (state : Draft × List Char) :
    Except DescriptorFault (Draft × List Char) :=
  let (draft, text) := state
  match member with
  | .chip =>
      (readElement 0 Reading.chip text).map fun (value, rest) =>
        ({ draft with chip := some value }, rest)
  | .referenceCycle =>
      (readElement 1 unsigned text).map fun (value, rest) =>
        ({ draft with referenceCycle := some value }, rest)
  | .referenceWallNs =>
      (readElement 2 signed text).map fun (value, rest) =>
        ({ draft with referenceWallNs := some value }, rest)
  | .frequency =>
      (readElement 3 double text).map fun (value, rest) =>
        ({ draft with frequency := some value }, rest)
  | .runStartNs =>
      (readOptionalElement text).map fun (value, rest) =>
        ({ draft with runStartNs := some value }, rest)
  | .runEndNs =>
      (readOptionalElement text).map fun (value, rest) =>
        ({ draft with runEndNs := some value }, rest)

/-- Reads these members as the next elements of an array. -/
def readFields : List Member → Draft × List Char → Except DescriptorFault (Draft × List Char)
  | [], state => .ok state
  | member :: members, state => (readField member state).bind (readFields members)

theorem readArray_eq (text : List Char) :
    readArray text =
      (readFields Member.all ({}, text)).bind fun (draft, rest) =>
        (ofText (Json.expectMark ']' rest)).bind fun rest =>
          draft.complete.map fun descriptor => (descriptor, rest) := by
  simp only [readArray, Member.all, readFields, bind, readField]
  rcases readElement 0 Reading.chip text with fault | ⟨chip, rest⟩
  · rfl
  simp only [Except.map, Except.bind]
  rcases readElement 1 unsigned rest with fault | ⟨cycle, rest⟩
  · rfl
  simp only
  rcases readElement 2 signed rest with fault | ⟨wall, rest⟩
  · rfl
  simp only
  rcases readElement 3 double rest with fault | ⟨frequency, rest⟩
  · rfl
  simp only
  rcases readOptionalElement rest with fault | ⟨start, rest⟩
  · rfl
  simp only
  rcases readOptionalElement rest with fault | ⟨stop, rest⟩
  · rfl
  simp only
  rcases ofText (Json.expectMark ']' rest) with fault | rest
  · rfl
  · rfl

section Elements

variable {blank : List Char} (element : Element) (text : List Char) (draft : Draft)

theorem nextElement?_first :
    nextElement? true (element.text ++ text) =
      .ok (some (element.value ++ (element.after ++ text))) := by
  obtain ⟨first, later, split, inner⟩ := element.written.head
  have solid := Json.isSpace_of_isDelimiter inner
  rw [nextElement?, Element.text, List.append_assoc, Json.skipSpace_blank element.blankBefore,
    split, List.append_assoc, List.cons_append, Json.skipSpace_solid solid]
  split
  · contradiction
  · next same =>
      obtain ⟨rfl, -⟩ := List.cons.inj same
      contradiction
  · next same => rw [same, if_pos rfl]
  · rfl

theorem nextElement?_later (isBlank : Blank blank) :
    nextElement? false (blank ++ ',' :: (element.text ++ text)) =
      .ok (some (element.value ++ (element.after ++ text))) := by
  obtain ⟨first, later, split, inner⟩ := element.written.head
  have solid := Json.isSpace_of_isDelimiter inner
  rw [nextElement?, Json.skipSpace_blank_solid isBlank rfl]
  simp only [Bool.false_eq_true, if_false]
  rw [Element.text, List.append_assoc, Json.skipSpace_blank element.blankBefore,
    split, List.append_assoc, List.cons_append, Json.skipSpace_solid solid]
  split
  · contradiction
  · next same =>
      obtain ⟨rfl, -⟩ := List.cons.inj same
      contradiction
  · rfl

theorem nextElement?_end (isBlank : Blank blank) (first : Bool) :
    nextElement? first (blank ++ ']' :: text) = .ok none := by
  rw [nextElement?, Json.skipSpace_blank_solid isBlank rfl]
  rfl

theorem readElement_some {α : Type} {index : Nat} {read : List Char → Reading α}
    {here : List Char} (next : nextElement? (index == 0) text = .ok (some here)) :
    readElement index read text = read here := by
  rw [readElement, next]
  rfl

theorem readOptionalElement_some {here : List Char}
    (next : nextElement? false text = .ok (some here)) :
    readOptionalElement text = optionalSigned here := by
  rw [readOptionalElement, next]
  rfl

theorem readOptionalElement_none (next : nextElement? false text = .ok none) :
    readOptionalElement text = .ok (none, text) := by
  rw [readOptionalElement, next]
  rfl

theorem readField_first :
    readField .chip (draft, element.text ++ text) =
      draft.fill .chip (element.value ++ (element.after ++ text)) :=
  congrArg (Except.map _) (readElement_some _ (nextElement?_first element text))

theorem readField_later {member : Member} (other : member ≠ .chip) (isBlank : Blank blank) :
    readField member (draft, blank ++ ',' :: (element.text ++ text)) =
      draft.fill member (element.value ++ (element.after ++ text)) := by
  have next := nextElement?_later element text isBlank
  cases member with
  | chip => contradiction
  | referenceCycle => exact congrArg (Except.map _) (readElement_some _ next)
  | referenceWallNs => exact congrArg (Except.map _) (readElement_some _ next)
  | frequency => exact congrArg (Except.map _) (readElement_some _ next)
  | runStartNs => exact congrArg (Except.map _) (readOptionalElement_some _ next)
  | runEndNs => exact congrArg (Except.map _) (readOptionalElement_some _ next)

end Elements

theorem readField_omitted {descriptor : Descriptor} {member : Member}
    (omits : descriptor.Omits member) {blank : List Char} (isBlank : Blank blank)
    (seen : Finset Member) :
    readField member (descriptor.draftOf seen, blank ++ ']' :: rest) =
      .ok (descriptor.draftOf (insert member seen), blank ++ ']' :: rest) := by
  have ended := readOptionalElement_none _ (nextElement?_end rest isBlank false)
  cases member with
  | runStartNs =>
      have missing : descriptor.runStartNs = none := omits
      rw [readField, ended]
      simp [Except.map, draftOf, missing]
  | runEndNs =>
      have missing : descriptor.runEndNs = none := omits
      rw [readField, ended]
      simp [Except.map, draftOf, missing]
  | _ => exact absurd omits not_false

theorem delimited_bracket (rest : List Char) : Delimited (']' :: rest) :=
  Json.delimited_cons rfl rest

theorem Listed.readFields {descriptor : Descriptor} {members : List Member}
    {elements : List Element} (listed : Listed descriptor members elements)
    (later : .chip ∉ members) (seen : Finset Member) {blank : List Char} (isBlank : Blank blank) :
    ∃ left, Blank left ∧
      readFields members (descriptor.draftOf seen,
          blank ++ (following (elements.map Element.text) ++ ']' :: rest)) =
        .ok (descriptor.draftOf (members.toFinset ∪ seen), left ++ ']' :: rest) := by
  induction listed generalizing seen blank with
  | nil => exact ⟨blank, isBlank, by rw [List.toFinset_nil, Finset.empty_union]; rfl⟩
  | @given member members element elements gives listed induction =>
      rw [List.mem_cons, not_or] at later
      have after := Json.delimited_blank element.blankAfter
        (delimited_following (elements.map Element.text) (delimited_bracket rest))
      have filled := gives.fill Json.blank_nil after seen
      obtain ⟨left, isLeft, read⟩ := induction later.2 (insert member seen) element.blankAfter
      refine ⟨left, isLeft, ?_⟩
      rw [List.map_cons, following_cons, Descriptor.readFields,
        readField_later element _ _ (Ne.symm later.1) isBlank]
      rw [List.nil_append] at filled
      rw [filled, List.toFinset_cons, Finset.insert_union, ← Finset.union_insert]
      exact read
  | @omitted member members omits listed induction =>
      rw [List.mem_cons, not_or] at later
      obtain ⟨left, isLeft, read⟩ := induction later.2 (insert member seen) isBlank
      have ended := @readField_omitted rest descriptor member omits blank isBlank seen
      refine ⟨left, isLeft, ?_⟩
      rw [Descriptor.readFields, List.toFinset_cons, Finset.insert_union, ← Finset.union_insert,
        ← read]
      exact congrArg (fun step => Except.bind step (Descriptor.readFields members)) ended

theorem accepts_of_readFields {members : List Member} {elements : List Element}
    (later : .chip ∉ members) {draft : Draft} {blank : List Char} (isBlank : Blank blank)
    {result : Draft × List Char}
    (read : readFields members
      (draft, blank ++ (following (elements.map Element.text) ++ ']' :: rest)) = .ok result) :
    ∀ pair ∈ members.zip elements, Accepts pair.1 pair.2.value := by
  induction members generalizing elements draft blank with
  | nil => exact nofun
  | cons member members induction =>
      cases elements with
      | nil => exact nofun
      | cons element elements =>
          rw [List.mem_cons, not_or] at later
          have after := Json.delimited_blank element.blankAfter
            (delimited_following (elements.map Element.text) (delimited_bracket rest))
          rw [List.map_cons, following_cons, readFields,
            readField_later element _ _ (Ne.symm later.1) isBlank] at read
          obtain ⟨⟨next, left⟩, filled, read⟩ := bind_eq_ok read
          obtain rfl := Draft.fill_rest Json.blank_nil element.written after filled
          rw [List.zip_cons_cons, List.forall_mem_cons]
          refine ⟨⟨draft, [], _, _, Json.blank_nil, after, filled⟩, ?_⟩
          exact induction later.2 element.blankAfter read

namespace ArrayText

variable {array : ArrayText}

/-- What stands after the opening bracket. -/
def inner (array : ArrayText) : List Char :=
  [','].intercalate (array.elements.map Element.text) ++ ']' :: array.after

theorem read_text (array : ArrayText) : read array.text = readArray array.inner := by
  rw [read, text, Json.skipSpace_blank_solid array.blankBefore rfl]
  rfl

theorem inner_cons {first : Element} {more : List Element}
    (split : array.elements = first :: more) :
    array.inner = first.text ++ (following (more.map Element.text) ++ ']' :: array.after) := by
  rw [inner, split, List.map_cons, intercalate_cons, List.append_assoc]

/-- The members after the first one. -/
def others : List Member := [.referenceCycle, .referenceWallNs, .frequency, .runStartNs, .runEndNs]

theorem readFields_cons (first : Element) (text : List Char) :
    readFields Member.all ({}, first.text ++ text) =
      (Draft.fill {} .chip (first.value ++ (first.after ++ text))).bind (readFields others) := by
  rw [← readField_first first text]
  rfl

theorem Gives.parse {descriptor : Descriptor} (gives : array.Gives descriptor) :
    parse (String.ofList array.text) = .ok descriptor := by
  have listed : Listed descriptor (.chip :: others) array.elements := gives
  generalize split : array.elements = elements at listed
  cases listed with
  | omitted omits => exact absurd omits not_false
  | @given _ _ first more chip listed =>
      have after := Json.delimited_blank first.blankAfter
        (delimited_following (more.map Element.text) (delimited_bracket array.after))
      have filled := chip.fill Json.blank_nil after ∅
      have nothing : ({} : Draft) = descriptor.draftOf ∅ := rfl
      obtain ⟨left, isLeft, read⟩ := @Listed.readFields array.after descriptor others more listed
        (by decide) {.chip} first.after first.blankAfter
      have all : ∀ member, member ∈ others.toFinset ∪ {.chip} := by
        intro member
        cases member <;> decide
      rw [parse_eq_ok_iff, read_text, readArray_eq, inner_cons split, readFields_cons]
      rw [← nothing, List.nil_append] at filled
      refine ⟨array.after, ?_, array.blankAfter.skipSpace⟩
      rw [filled]
      simp only [Except.bind, LawfulSingleton.insert_empty_eq, read, ofText, Except.mapError,
        Json.expectMark_blank isLeft (show Json.isSpace ']' = false from rfl)]
      rw [complete_draftOf fun member missing => absurd (all member) missing]
      rfl

theorem accepts_of_parse {descriptor : Descriptor}
    (parsed : Descriptor.parse (String.ofList array.text) = .ok descriptor) :
    ∀ pair ∈ Member.all.zip array.elements, Accepts pair.1 pair.2.value := by
  obtain ⟨left, read, -⟩ := parse_eq_ok_iff.mp parsed
  rw [read_text, readArray_eq] at read
  obtain ⟨result, fields, -⟩ := bind_eq_ok read
  cases split : array.elements with
  | nil => exact nofun
  | cons first more =>
      have after := Json.delimited_blank first.blankAfter
        (delimited_following (more.map Element.text) (delimited_bracket array.after))
      rw [inner_cons split, readFields_cons] at fields
      obtain ⟨⟨next, left⟩, filled, fields⟩ := bind_eq_ok fields
      obtain rfl := Draft.fill_rest Json.blank_nil first.written after filled
      have accepts : Accepts .chip first.value :=
        ⟨{}, [], _, _, Json.blank_nil, after, filled⟩
      have later := accepts_of_readFields (by decide) first.blankAfter fields
      exact List.forall_mem_cons.mpr ⟨accepts, later⟩

end ArrayText

end AcceleratorTrace.Descriptor

import PoeDhcp.Foundation.Tlv
import PoeDhcp.Model.Run

namespace PoeDhcp

open Foundation

/-! The option scan of the server is the walk over a tag-length-value area. -/

def rfc2132 : Framing where
  pad := optionPad
  stop := optionEnd
  pad_ne_stop := by decide

theorem rfc2132_pad : rfc2132.pad = optionPad := rfl

theorem rfc2132_stop : rfc2132.stop = optionEnd := rfl

theorem isTag_hostName : rfc2132.IsTag optionHostName :=
  ⟨by decide, by decide⟩

theorem isTag_requestedIpAddress : rfc2132.IsTag optionRequestedIpAddress :=
  ⟨by decide, by decide⟩

theorem isTag_dhcpMessageType : rfc2132.IsTag optionDhcpMessageType :=
  ⟨by decide, by decide⟩

theorem isTag_serverIdentifier : rfc2132.IsTag optionServerIdentifier :=
  ⟨by decide, by decide⟩

theorem isTag_clientIdentifier : rfc2132.IsTag optionClientIdentifier :=
  ⟨by decide, by decide⟩

theorem optionEnd_le {byte : BYTE} : optionEnd ≤ byte ↔ byte = optionEnd := by
  constructor
  · intro above
    apply BitVec.eq_of_toNat_eq
    have upper := byte.isLt
    have lower : 255 ≤ byte.toNat := above
    simp only [optionEnd]
    simp
    omega
  · intro equality
    subst equality
    exact BitVec.le_refl _

def OptionData.ofPlace (base : Nat) (place : Framing.Place) : OptionData :=
  ⟨base + place.offset, place.length⟩

theorem OptionData.ofPlace_later (base distance : Nat)
    (place : Framing.Place) :
    ofPlace base (place.later distance) = ofPlace (base + distance) place := by
  simp only [ofPlace, Framing.Place.later, Nat.add_assoc]

theorem scanOptions_eq_locate (tag : BYTE) (options : Memory)
    (optionsSize i : Nat) :
    scanOptions tag options optionsSize i =
      (Framing.locate rfc2132 tag (options.read i (optionsSize - i))).map
        (OptionData.ofPlace i) := by
  generalize hremaining : optionsSize - i = remaining
  induction remaining using Nat.strongRecOn generalizing i with
  | ind remaining ih =>
      rw [scanOptions_eq]
      by_cases bound : i < optionsSize
      · obtain ⟨rest, rfl⟩ : ∃ rest, remaining = rest + 1 :=
          ⟨remaining - 1, by omega⟩
        simp only [bound, if_true, Memory.read]
        by_cases hpad : options i = optionPad
        · simp only [hpad, if_true]
          rw [ih rest (by omega) (i + 1) (by omega),
            ← rfc2132_pad, Framing.locate_padding, Option.map_map]
          congr 1
          funext place
          exact (OptionData.ofPlace_later i 1 place).symm
        by_cases hend : options i = optionEnd
        · simp only [hend]
          rw [← rfc2132_stop, Framing.locate_stop]
          simp [rfc2132, optionEnd, optionPad]
        have hnotEnd : ¬ optionEnd ≤ options i := fun h => hend (optionEnd_le.mp h)
        have isTag : rfc2132.IsTag (options i) := ⟨hpad, hend⟩
        simp only [hpad, hnotEnd, if_false]
        by_cases next : i + 1 < optionsSize
        · obtain ⟨rest, rfl⟩ : ∃ left, rest = left + 1 := ⟨rest - 1, by omega⟩
          simp only [next, and_true, if_true, Memory.read]
          by_cases htag : tag = options i
          · subst htag
            rw [if_pos rfl, Framing.locate_hit isTag]
            rfl
          · rw [Framing.locate_skip isTag (fun h => htag h.symm), Memory.drop_read, if_neg htag,
              ih (rest - (options (i + 1)).toNat) (by omega)
                (i + 2 + (options (i + 1)).toNat) (by omega),
              Option.map_map,
              show i + 1 + 1 + (options (i + 1)).toNat =
                i + 2 + (options (i + 1)).toNat by omega]
            congr 1
            funext place
            rw [Function.comp, OptionData.ofPlace_later, Nat.add_assoc]
        · have hrest : rest = 0 := by omega
          subst hrest
          simp [next, Memory.read, Framing.locate.eq_def rfc2132, hpad, hend,
            rfc2132_pad, rfc2132_stop]
      · have hremaining : remaining = 0 := by omega
        subst hremaining
        simp [bound, Memory.read, Framing.locate]

/-- For every byte string `findOptionData` is the walk over the received option
bytes, except that it does not look at areas of one or two bytes. -/
theorem findOptionData_eq_locate {tag : BYTE} (isTag : rfc2132.IsTag tag)
    (options : Memory) {optionsSize : Nat} (long : 2 < optionsSize) :
    findOptionData tag options optionsSize =
      (Framing.locate rfc2132 tag (options.read 0 optionsSize)).map
        (OptionData.ofPlace 0) := by
  have hnotEnd : ¬ optionEnd ≤ tag := fun h =>
    isTag.ne_stop (optionEnd_le.mp h)
  rw [findOptionData_eq, if_neg hnotEnd, if_pos long, scanOptions_eq_locate,
    Nat.sub_zero]

theorem findOptionData_short {tag : BYTE} {options : Memory}
    {optionsSize : Nat} (short : ¬ 2 < optionsSize) :
    findOptionData tag options optionsSize = none := by
  rw [findOptionData_eq, if_neg short]
  simp

theorem findOptionData_long {tag : BYTE} {options : Memory}
    {optionsSize : Nat} {found : OptionData}
    (hfound : findOptionData tag options optionsSize = some found) :
    2 < optionsSize := by
  by_contra short
  rw [findOptionData_short short] at hfound
  contradiction

/-! PAD and END are never found. -/

theorem scanOptions_pad (options : Memory) (optionsSize i : Nat) :
    scanOptions optionPad options optionsSize i = none := by
  rw [scanOptions_eq_locate, ← rfc2132_pad, Framing.locate_pad]
  rfl

theorem findOptionData_of_not_isTag {tag : BYTE}
    (notTag : ¬ rfc2132.IsTag tag) (options : Memory) (optionsSize : Nat) :
    findOptionData tag options optionsSize = none := by
  rw [findOptionData_eq]
  by_cases hend : optionEnd ≤ tag
  · rw [if_pos hend]
  have hpad : tag = optionPad := by
    by_contra different
    exact notTag ⟨different, fun stop => hend (optionEnd_le.mpr stop)⟩
  rw [if_neg hend, hpad, scanOptions_pad]
  split <;> rfl

theorem findOptionData_congr {tag : BYTE} (isTag : rfc2132.IsTag tag)
    {left right : Memory} {optionsSize : Nat}
    (agree : Memory.AgreeBelow optionsSize left right) :
    findOptionData tag left optionsSize =
      findOptionData tag right optionsSize := by
  by_cases long : 2 < optionsSize
  · rw [findOptionData_eq_locate isTag _ long,
      findOptionData_eq_locate isTag _ long,
      agree.read 0 optionsSize (by omega)]
  · rw [findOptionData_short long, findOptionData_short long]

theorem findOptionData_size_lt {tag : BYTE} (isTag : rfc2132.IsTag tag)
    {options : Memory} {optionsSize : Nat} {found : OptionData}
    (hfound : findOptionData tag options optionsSize = some found) :
    found.size < 256 := by
  rw [findOptionData_eq_locate isTag _ (findOptionData_long hfound),
    Option.map_eq_some_iff] at hfound
  obtain ⟨place, located, rfl⟩ := hfound
  obtain ⟨items, length, body, -, -, rfl⟩ :=
    Framing.exists_items_of_locate isTag located
  exact length.isLt

/-- In a well-formed area the scan finds the first option with the tag and
nothing but it. -/
theorem findOptionData_encode {tag : BYTE} (isTag : rfc2132.IsTag tag)
    {options : Memory} {optionsSize : Nat} (long : 2 < optionsSize)
    {items : List (Framing.Item rfc2132)} {rest : List BYTE}
    (area : options.read 0 optionsSize = Framing.encode items ++ rest)
    {field : Framing.Field rfc2132}
    (hfield : Framing.firstField tag items = some field) :
    ∃ found, findOptionData tag options optionsSize = some found ∧
      found.size = field.value.length ∧
      options.read found.offset found.size = field.value := by
  obtain ⟨place, located, hlength, hvalue, hbound⟩ :=
    Framing.locate_encode_of_firstField hfield rest
  rw [← area] at located hvalue
  have hsize : (Framing.encode items).length ≤ optionsSize := by
    have lengths := congrArg List.length area
    simp at lengths
    omega
  refine ⟨OptionData.ofPlace 0 place, ?_, hlength, ?_⟩
  · rw [findOptionData_eq_locate isTag _ long, located]
    rfl
  · rw [Memory.drop_read, Memory.take_read _ _ _ _ (by omega)] at hvalue
    exact hvalue

/-- A well-formed area ends after its items or with END. -/
theorem findOptionData_encode_none {tag : BYTE} (isTag : rfc2132.IsTag tag)
    {options : Memory} {optionsSize : Nat} (long : 2 < optionsSize)
    {items : List (Framing.Item rfc2132)} {rest : List BYTE}
    (area : options.read 0 optionsSize = Framing.encode items ++ rest)
    (closed : rest = [] ∨ rest.head? = some optionEnd)
    (hfield : Framing.firstField tag items = none) :
    findOptionData tag options optionsSize = none := by
  rw [findOptionData_eq_locate isTag _ long, area,
    Framing.locate_encode_append (Framing.firstField_eq_none.mp hfield)]
  rcases closed with rfl | closed
  · simp [Framing.locate]
  · cases rest with
    | nil => simp at closed
    | cons head rest =>
        simp only [List.head?_cons, Option.some.injEq] at closed
        subst closed
        rw [← rfc2132_stop, Framing.locate_stop]
        rfl

/-! The same with the place of the value. -/

/-- The first option with the tag stands behind these items. -/
structure FirstAt (items : List (Framing.Item rfc2132)) (tag : BYTE)
    (before : List (Framing.Item rfc2132)) (field : Framing.Field rfc2132) :
    Prop where
  split : ∃ after, items = before ++ .field field :: after
  avoids : Framing.Avoids tag before
  sameTag : field.tag = tag

theorem FirstAt.firstField {items before : List (Framing.Item rfc2132)}
    {tag : BYTE} {field : Framing.Field rfc2132}
    (first : FirstAt items tag before field) :
    Framing.firstField tag items = some field := by
  obtain ⟨⟨after, rfl⟩, avoids, same⟩ := first
  rw [Framing.firstField_append avoids, Framing.firstField, if_pos same]

theorem FirstAt.unique {items before before' : List (Framing.Item rfc2132)}
    {tag : BYTE} {field field' : Framing.Field rfc2132}
    (first : FirstAt items tag before field)
    (first' : FirstAt items tag before' field') :
    before = before' ∧ field = field' := by
  have found := first.firstField
  rw [first'.firstField, Option.some.injEq] at found
  obtain ⟨⟨after, rfl⟩, avoids, same⟩ := first
  obtain ⟨⟨after', split⟩, avoids', same'⟩ := first'
  exact ⟨Framing.before_unique avoids avoids' same same' split, found.symm⟩

theorem exists_firstAt {items : List (Framing.Item rfc2132)} {tag : BYTE}
    {field : Framing.Field rfc2132}
    (found : Framing.firstField tag items = some field) :
    ∃ before, FirstAt items tag before field := by
  obtain ⟨same, before, after, split, avoids⟩ :=
    Framing.firstField_eq_some found
  exact ⟨before, ⟨after, split⟩, avoids, same⟩

theorem findOptionData_firstAt {tag : BYTE} (isTag : rfc2132.IsTag tag)
    {options : Memory} {optionsSize : Nat} (long : 2 < optionsSize)
    {items before : List (Framing.Item rfc2132)} {rest : List BYTE}
    (area : options.read 0 optionsSize = Framing.encode items ++ rest)
    {field : Framing.Field rfc2132} (first : FirstAt items tag before field) :
    findOptionData tag options optionsSize =
        some ⟨(Framing.encode before).length + 2, field.value.length⟩ ∧
      options.read ((Framing.encode before).length + 2) field.value.length =
        field.value := by
  obtain ⟨⟨after, rfl⟩, avoids, rfl⟩ := first
  have pieces : options.read 0 optionsSize =
      Framing.encode before ++ (field.tag ::
        BitVec.ofNat 8 field.value.length ::
          (field.value ++ (Framing.encode after ++ rest))) := by
    rw [area]
    simp [Framing.encode_append, Framing.Item.encode]
  have lengths := congrArg List.length pieces
  simp only [Memory.length_read, List.length_append, List.length_cons]
    at lengths
  constructor
  · rw [findOptionData_eq_locate isTag _ long, pieces,
      Framing.locate_encode_append avoids, Framing.locate_hit isTag,
      field.toNat_length]
    simp [OptionData.ofPlace, Framing.Place.later]
  · have value := congrArg
      (fun bytes => (bytes.drop ((Framing.encode before).length + 2)).take
        field.value.length) pieces
    simp only [Memory.drop_read, Nat.zero_add] at value
    rw [Memory.take_read _ _ _ _ (by omega)] at value
    rw [value, ← List.drop_drop, List.drop_left]
    simp

theorem exists_firstAt_iff {items : List (Framing.Item rfc2132)}
    {tag : BYTE} :
    (∃ before field, FirstAt items tag before field) ↔
      ∃ field, .field field ∈ items ∧ field.tag = tag := by
  constructor
  · intro first
    obtain ⟨before, field, ⟨⟨after, rfl⟩, -, same⟩⟩ := first
    exact ⟨field, by simp, same⟩
  · intro occurs
    obtain ⟨field, member, same⟩ := occurs
    cases search : Framing.firstField tag items with
    | none =>
        have avoids := Framing.firstField_eq_none.mp search _ member
        simp [Framing.Item.tag?, same] at avoids
    | some content =>
        obtain ⟨before, first⟩ := exists_firstAt search
        exact ⟨before, content, first⟩

/-- In every well-formed area the scan finds a tag exactly when an option has it,
and returns the place and the size of the first such value. -/
theorem findOptionData_wellFormed {items : List (Framing.Item rfc2132)}
    {rest : List BYTE} (closed : rest = [] ∨ rest.head? = some optionEnd)
    {options : Memory} {optionsSize : Nat} (long : 3 ≤ optionsSize)
    (area : options.read 0 optionsSize = Framing.encode items ++ rest)
    {tag : BYTE} (isTag : rfc2132.IsTag tag) :
    ((findOptionData tag options optionsSize).isSome = true ↔
        ∃ field, .field field ∈ items ∧ field.tag = tag) ∧
      ∀ before field, FirstAt items tag before field →
        findOptionData tag options optionsSize =
            some ⟨(Framing.encode before).length + 2, field.value.length⟩ ∧
          options.read ((Framing.encode before).length + 2)
            field.value.length = field.value := by
  refine ⟨?_, fun before field first =>
    findOptionData_firstAt isTag long area first⟩
  rw [← exists_firstAt_iff]
  constructor
  · intro found
    cases search : Framing.firstField tag items with
    | none =>
        rw [findOptionData_encode_none isTag long area closed search] at found
        cases found
    | some content =>
        obtain ⟨before, first⟩ := exists_firstAt search
        exact ⟨before, content, first⟩
  · intro first
    obtain ⟨before, field, first⟩ := first
    rw [(findOptionData_firstAt isTag long area first).1]
    rfl

def discoverItem : Framing.Item rfc2132 :=
  .field ⟨optionDhcpMessageType, [1], isTag_dhcpMessageType.ne_pad,
    isTag_dhcpMessageType.ne_stop, by decide⟩

/-- The host name has bytes that look like a tag, PAD and END. -/
def misleadingItems : List (Framing.Item rfc2132) :=
  [.padding,
    .field ⟨optionHostName, [53, 0, 255], isTag_hostName.ne_pad,
      isTag_hostName.ne_stop, by decide⟩,
    discoverItem]

def misleadingArea : Memory :=
  fun index => (Framing.encode misleadingItems ++ [optionEnd, 53, 1, 3]).getD
    index 0

theorem misleadingArea_scanned :
    ((findOptionData optionDhcpMessageType misleadingArea 13).isSome = true ↔
        ∃ field, .field field ∈ misleadingItems ∧
          field.tag = optionDhcpMessageType) ∧
      ∀ before field,
        FirstAt misleadingItems optionDhcpMessageType before field →
          findOptionData optionDhcpMessageType misleadingArea 13 =
              some ⟨(Framing.encode before).length + 2, field.value.length⟩ ∧
            misleadingArea.read ((Framing.encode before).length + 2)
              field.value.length = field.value :=
  @findOptionData_wellFormed misleadingItems [optionEnd, 53, 1, 3]
    (Or.inr rfl) misleadingArea 13 (by decide) (by decide)
    optionDhcpMessageType isTag_dhcpMessageType

end PoeDhcp

import Rehearsal.Proofs.Json.ReadingBack
import Rehearsal.Proofs.SortedMap

/-! # What readers give

A value that was read is no deeper than the brackets that were left, its whole numbers fit a machine
word, and where it was put in order its objects are in order. What every reader of a member gives is
kept by the record that the members fill.
-/

namespace Rehearsal

namespace Json

namespace Value

theorem canonicalItems_eq (items : List Value) : canonicalItems items = items.map canonical := by
  induction items with
  | nil => rfl
  | cons item rest ih => rw [canonicalItems, ih, List.map_cons]

theorem canonicalMembers_eq (members : List (String × Value)) :
    canonicalMembers members = members.map fun member => (member.1, member.2.canonical) := by
  induction members with
  | nil => rfl
  | cons member rest ih => rw [canonicalMembers, ih, List.map_cons]

/-- What comes of putting members in order was one of them, with its value in order. -/
theorem mem_canonical {members : List (String × Value)} {member : String × Value}
    (inside : member ∈ SortedMap.ofEntries (canonicalMembers members)) :
    ∃ before ∈ members, (before.1, before.2.canonical) = member := by
  have inside := SortedMap.mem_ofEntries inside
  rwa [canonicalMembers_eq, List.mem_map] at inside

theorem canonical_canonical (value : Value) : value.canonical.canonical = value.canonical := by
  induction value with
  | null | bool | number | text => simp only [canonical]
  | list items ih =>
      simp only [canonical, canonicalItems_eq, List.map_map]
      congr 1
      exact List.map_congr_left fun item member => ih item member
  | object members ih =>
      have kept : canonicalMembers (SortedMap.ofEntries (canonicalMembers members)) =
          SortedMap.ofEntries (canonicalMembers members) := by
        rw [canonicalMembers_eq (SortedMap.ofEntries _)]
        conv_rhs => rw [← List.map_id (SortedMap.ofEntries (canonicalMembers members))]
        refine List.map_congr_left fun member inside => ?_
        obtain ⟨before, present, rfl⟩ := mem_canonical inside
        rw [ih before present]
        rfl
      rw [canonical, canonical, kept, (SortedMap.sorted_ofEntries _).ofEntries_eq]

theorem Within.canonical {P : Number → Prop} {depth : Nat} {value : Value}
    (within : value.Within P depth) : value.canonical.Within P depth := by
  induction within with
  | null => simpa only [Value.canonical] using .null
  | bool b => simpa only [Value.canonical] using .bool b
  | number good => simpa only [Value.canonical] using .number good
  | text s => simpa only [Value.canonical] using .text s
  | list each ih =>
      rw [Value.canonical, canonicalItems_eq]
      refine .list fun item member => ?_
      obtain ⟨before, present, rfl⟩ := List.mem_map.mp member
      exact ih before present
  | object each ih =>
      rw [Value.canonical]
      refine .object fun member inside => ?_
      obtain ⟨before, present, rfl⟩ := mem_canonical inside
      exact ih before present

/-- Whether a value is as `Reader.value` and `Decoder.value` give it. -/
structure Sound (depth : Nat) (value : Value) : Prop where
  within : value.Within Number.Ranged depth
  canonical : value.canonical = value

theorem Within.sound {depth : Nat} {value : Value} (within : value.Within Number.Ranged depth) :
    Sound depth value.canonical :=
  ⟨within.canonical, canonical_canonical value⟩

end Value

/-! ### Readers -/

theorem exists_of_map_eq_ok {ε α β : Type} {f : α → β} {result : Except ε α} {b : β}
    (mapped : result.map f = .ok b) : ∃ a, result = .ok a ∧ f a = b := by
  cases result with
  | error e => cases mapped
  | ok a => exact ⟨a, rfl, Except.ok.inj mapped⟩

/-- Whether a reader, with so many brackets left to open, gives only what has a property. -/
def Yields {α : Type} (r : Reader α) (depth : Nat) (P : α → Prop) : Prop :=
  ∀ c a c', r depth c = .ok (a, c') → P a

section Readers

variable {α : Type} {depth : Nat} {P : α → Prop}

theorem Yields.true (r : Reader α) : Yields r depth fun _ => True :=
  fun _ _ _ _ => trivial

theorem Yields.map {β : Type} {r : Reader α} {f : α → β} {Q : β → Prop} (yields : Yields r depth P)
    (kept : ∀ a, P a → Q (f a)) : Yields (do let a ← r; pure (f a)) depth Q := by
  intro c b c' read
  simp only [bind, Reader.bind] at read
  split at read
  · rename_i a _ inner
    cases read
    exact kept a (yields c a _ inner)
  · cases read

theorem yields_scalar {c c' : Cursor} {v : Value} (read : Reader.scalar c = .ok (v, c')) :
    v.Within Number.Ranged depth := by
  unfold Reader.scalar at read
  split at read
  · rename_i number
    cases read
    exact .number (number?_ranged number)
  · cases read
  · split at read
    · cases read
    · obtain ⟨_, -, same⟩ := exists_of_map_eq_ok read
      cases same
      exact .null
    · obtain ⟨_, -, same⟩ := exists_of_map_eq_ok read
      cases same
      exact .bool true
    · obtain ⟨_, -, same⟩ := exists_of_map_eq_ok read
      cases same
      exact .bool false
    · obtain ⟨_, -, same⟩ := exists_of_map_eq_ok read
      cases same
      exact .text _
    · cases read

theorem yields_scalarOf {expected : String} {starts : Char → Bool} {take : Value → Except Reason α}
    (taken : ∀ v a, v.Within Number.Ranged depth → take v = .ok a → P a) :
    Yields (Reader.scalarOf expected starts take) depth P := by
  intro c a c' read
  unfold Reader.scalarOf at read
  dsimp only at read
  split at read
  · cases read
  · split at read
    · split at read
      · cases read
      · rename_i v _ scalar
        split at read
        · cases read
          exact taken v a (yields_scalar scalar) ‹_›
        · cases read
    · cases read

theorem naturalOf_le {expected : String} {limit n : Nat} {number : Number}
    (taken : Reader.naturalOf expected limit number = .ok n) : n ≤ limit := by
  unfold Reader.naturalOf at taken
  split at taken
  · split_ifs at taken with fits
    cases taken
    exact fits
  · cases taken
  · cases taken

theorem yields_count : Yields Reader.count depth (· ≤ Reader.maxWord) := by
  refine yields_scalarOf fun v n _ taken => ?_
  split at taken
  · exact naturalOf_le taken
  · cases taken

theorem yields_enclosed {b : Reader.Bracket} {body : Reader α} (yields : Yields body depth P) :
    Yields (Reader.enclosed b body) (depth + 1) P := by
  intro c a c' read
  unfold Reader.enclosed at read
  dsimp only at read
  split at read
  · rename_i inner
    split at read
    · cases read
      exact yields _ a _ inner
    · cases read
  · cases read
  · cases read

theorem yields_items {item : Reader α} (yields : Yields item depth P) (fuel : Nat) (first : Bool)
    {done : List α} (before : ∀ a ∈ done, P a) :
    Yields (Reader.items item fuel first done) depth fun as => ∀ a ∈ as, P a := by
  induction fuel generalizing first done with
  | zero => exact fun _ _ _ => nofun
  | succ fuel ih =>
      intro c as c' read
      rw [Reader.items] at read
      split at read
      · cases read
      · cases read
        simpa using before
      · split at read
        · cases read
        · rename_i a _ inner
          exact ih false (List.forall_mem_cons.mpr ⟨yields _ a _ inner, before⟩) _ _ _ read

theorem yields_allItems {item : Reader α} (yields : Yields item depth P) :
    Yields (Reader.allItems item) depth fun as => ∀ a ∈ as, P a :=
  fun _ _ _ read => yields_items yields _ true (List.forall_mem_nil _) _ _ _ read

theorem yields_members {value : String → Reader α} (yields : ∀ name, Yields (value name) depth P)
    (fuel : Nat) (first : Bool) {done : List (String × α)} (before : ∀ entry ∈ done, P entry.2) :
    Yields (Reader.members value fuel first done) depth fun entries =>
      ∀ entry ∈ entries, P entry.2 := by
  induction fuel generalizing first done with
  | zero => exact fun _ _ _ => nofun
  | succ fuel ih =>
      intro c entries c' read
      rw [Reader.members] at read
      split at read
      · cases read
      · cases read
        simpa using before
      · split at read
        · cases read
        · split at read
          · cases read
          · rename_i a _ inner
            exact ih false (List.forall_mem_cons.mpr ⟨yields _ _ a _ inner, before⟩) _ _ _ read

theorem yields_allMembers {value : String → Reader α}
    (yields : ∀ name, Yields (value name) depth P) :
    Yields (Reader.allMembers value) depth fun entries => ∀ entry ∈ entries, P entry.2 :=
  fun _ _ _ read => yields_members yields _ true (List.forall_mem_nil _) _ _ _ read

theorem yields_bracketed {expected : String} {b : Reader.Bracket} {body : Reader α}
    (yields : Yields body depth P) : Yields (Reader.bracketed expected b body) (depth + 1) P := by
  intro c a c' read
  unfold Reader.bracketed at read
  dsimp only at read
  split at read
  · cases read
  · split at read
    · exact yields_enclosed yields _ a _ read
    · cases read

theorem yields_list {item : Reader α} (yields : Yields item depth P) :
    Yields (Reader.list item) (depth + 1) fun as => ∀ a ∈ as, P a :=
  yields_bracketed (yields_allItems yields)

theorem yields_map {value : Reader α} (yields : Yields value depth P) :
    Yields (Reader.map value) (depth + 1) fun map =>
      SortedMap.Sorted map ∧ ∀ entry ∈ map, P entry.2 := by
  refine yields_bracketed ((yields_allMembers fun _ => yields).map fun entries each => ?_)
  exact ⟨SortedMap.sorted_ofEntries entries,
    fun entry member => each entry (SortedMap.mem_ofEntries member)⟩

/-- By induction on the brackets that may be opened. -/
theorem yields_tree : Yields Reader.tree depth (·.Within Number.Ranged depth) := by
  induction depth with
  | zero =>
      intro c v c' read
      rw [Reader.tree.eq_def] at read
      dsimp only at read
      split at read
      · cases read
      · cases read
      · exact yields_scalar read
  | succ depth ih =>
      intro c v c' read
      rw [Reader.tree.eq_def] at read
      dsimp only at read
      split at read
      · obtain ⟨⟨items, _⟩, inner, same⟩ := exists_of_map_eq_ok read
        cases same
        have inside : Yields (fun _ => Reader.allItems (fun _ => Reader.tree depth) depth) depth
            fun items => ∀ item ∈ items, item.Within Number.Ranged depth :=
          yields_allItems ih
        exact .list (yields_enclosed inside _ _ _ inner)
      · obtain ⟨⟨members, _⟩, inner, same⟩ := exists_of_map_eq_ok read
        cases same
        have inside : Yields (fun _ => Reader.allMembers (fun _ _ => Reader.tree depth) depth) depth
            fun members => ∀ member ∈ members, member.2.Within Number.Ranged depth :=
          yields_allMembers fun _ => ih
        exact .object (yields_enclosed inside _ _ _ inner)
      · exact yields_scalar read

theorem yields_value : Yields Reader.value depth (Value.Sound depth) :=
  yields_tree.map fun _ within => within.sound

end Readers

/-! ### Records -/

section Records

variable {ρ α : Type} {depth : Nat} {P : ρ → Prop} {Q : α → Prop}

/-- Whether entering the member keeps what is true of a record. -/
def Field.Keeps (field : Field ρ) (depth : Nat) (P : ρ → Prop) : Prop :=
  Yields field.read depth fun enter => ∀ record, P record → P (enter record)

theorem keeps_field {absence : Absence} {name : String} {reader : Reader α} {enter : ρ → α → ρ}
    (yields : Yields reader depth Q) (kept : ∀ record a, P record → Q a → P (enter record a)) :
    (Field.of absence name reader enter).Keeps depth P :=
  yields.map fun a good record holds => kept record a holds good

theorem keeps_any {absence : Absence} {name : String} {reader : Reader α} {enter : ρ → α → ρ}
    (kept : ∀ record a, P record → P (enter record a)) :
    (Field.of absence name reader enter).Keeps depth P :=
  keeps_field (.true reader) fun record a holds _ => kept record a holds

variable {type : RecordType ρ} (keeps : ∀ field ∈ type.fields, field.Keeps depth P)
  (checked : ∀ record result, P record → type.check record = .ok result → P result)
include checked

theorem yields_finish {record result : ρ} {c c' : Cursor} (holds : P record)
    (finished : type.finish record c = .ok (result, c')) : P result := by
  unfold RecordType.finish at finished
  split at finished
  · cases finished
    exact checked _ _ holds ‹_›
  · cases finished

include keeps

theorem yields_recordMembers (fuel : Nat) (first : Bool) (seen : List String) {record : ρ}
    (holds : P record) : Yields (type.members fuel first seen record) depth P := by
  induction fuel generalizing first seen record with
  | zero => exact fun _ _ _ => nofun
  | succ fuel ih =>
      intro c result c' read
      rw [RecordType.members] at read
      split at read
      · cases read
      · split at read
        · cases read
        · exact yields_finish checked holds read
      · split at read
        · rename_i field found
          split at read
          · cases read
          · split at read
            · cases read
            · split at read
              · cases read
              · rename_i enter _ inner
                have kept := keeps field (List.mem_of_find?_eq_some found) _ enter _ inner
                exact ih false _ (kept record holds) _ _ _ read
        · split at read
          · cases read
          · split at read
            · cases read
            · split at read
              · cases read
              · exact ih false _ holds _ _ _ read

theorem yields_recordItems {fields : List (Field ρ)} (among : ∀ field ∈ fields, field ∈ type.fields)
    (index : Nat) {record : ρ} (holds : P record) :
    Yields (type.items fields index record) depth P := by
  induction fields generalizing index record with
  | nil => exact fun _ _ _ read => yields_finish checked holds read
  | cons field fields ih =>
      obtain ⟨known, among⟩ := List.forall_mem_cons.mp among
      intro c result c' read
      rw [RecordType.items] at read
      split at read
      · cases read
      · split at read
        · exact ih among _ holds _ _ _ read
        · cases read
      · split at read
        · cases read
        · rename_i enter _ inner
          exact ih among _ (keeps field known _ enter _ inner record holds) _ _ _ read

/-- What is true of the blank record and kept by every member is true of a record that is read. -/
theorem yields_record (blank : P type.blank) : Yields type.reader (depth + 1) P := by
  intro c a c' read
  unfold RecordType.reader at read
  dsimp only at read
  split at read
  · cases read
  · exact yields_enclosed (yields_recordItems keeps checked (fun _ => id) 0 blank) _ _ _ read
  · exact yields_enclosed (yields_recordMembers keeps checked _ true [] blank) _ _ _ read
  · cases read

omit checked in
/-- For a record without a check of its own, its members decide. -/
theorem yields_unchecked (free : type.check = .ok) (blank : P type.blank) :
    Yields type.reader (depth + 1) P := by
  refine yields_record keeps (fun record result holds checked => ?_) blank
  rw [free] at checked
  cases checked
  exact holds

end Records

/-! ### Tagged records -/

section Tagged

variable {ρ : Type} {depth : Nat} {P : ρ → Prop}

/-- Whether a maker makes only what has a property, from what is at most so deep. -/
def Makes (make : TaggedType.Maker ρ) (depth : Nat) (P : ρ → Prop) : Prop :=
  ∀ rest, rest.Within Number.Ranged depth → ∀ a, make rest = .ok a → P a

theorem makes_any {σ : Type} {decode : Rest → Except Reason σ} {make : σ → ρ}
    (holds : ∀ record, P (make record)) (bound : Nat) :
    Makes (fun rest => (decode rest).map make) bound P := by
  intro rest _ a made
  obtain ⟨record, -, rfl⟩ := exists_of_map_eq_ok made
  exact holds record

variable {type : TaggedType ρ}

theorem variantOf_mem {known : List (String × TaggedType.Maker ρ)} {name : String}
    {make : TaggedType.Maker ρ} (found : Reader.variantOf known name = .ok make) :
    ∃ name, (name, make) ∈ known := by
  unfold Reader.variantOf at found
  split at found
  · rename_i name' _ present
    cases found
    exact ⟨name', List.mem_of_find?_eq_some present⟩
  · cases found

theorem yields_kind :
    Yields type.kindReader depth fun make => ∃ name, (name, make) ∈ type.kinds := by
  refine yields_scalarOf fun v make _ taken => ?_
  split at taken
  · exact variantOf_mem taken
  · cases taken

/-- Whether what was read of a tagged record is one of its kinds and what is left for it. -/
def Split (type : TaggedType ρ) (depth : Nat) (parts : TaggedType.Maker ρ × Rest) : Prop :=
  (∃ name, (name, parts.1) ∈ type.kinds) ∧ parts.2.Within Number.Ranged (depth + 1)

theorem yields_taggedMembers (fuel : Nat) (first : Bool) {kind? : Option (TaggedType.Maker ρ)}
    {others : List (String × Value)} (known : ∀ make ∈ kind?, ∃ name, (name, make) ∈ type.kinds)
    (within : ∀ member ∈ others, member.2.Within Number.Ranged depth) :
    Yields (type.members fuel first kind? others) depth (Split type depth) := by
  induction fuel generalizing first kind? others with
  | zero => exact fun _ _ _ => nofun
  | succ fuel ih =>
      intro c parts c' read
      rw [TaggedType.members] at read
      split at read
      · cases read
      · split at read
        · cases read
          exact ⟨known _ rfl, .object (by simpa using within)⟩
        · cases read
      · split at read
        · split at read
          · cases read
          · split at read
            · cases read
            · split at read
              · cases read
              · rename_i kind _ inner
                refine ih false (fun make same => ?_) within _ _ _ read
                obtain rfl := Option.some.inj same
                exact yields_kind _ _ _ inner
        · split at read
          · cases read
          · split at read
            · cases read
            · rename_i value _ inner
              exact ih false known (List.forall_mem_cons.mpr ⟨yields_tree _ _ _ inner, within⟩)
                _ _ _ read

theorem yields_taggedItems : Yields type.items depth (Split type depth) := by
  intro c parts c' read
  unfold TaggedType.items at read
  split at read
  · cases read
  · cases read
  · split at read
    · cases read
    · rename_i kind
      split at read
      · cases read
      · rename_i values
        cases read
        exact ⟨yields_kind _ _ _ kind,
          .list (yields_items yields_tree _ false (List.forall_mem_nil _) _ _ _ values)⟩

/-- What every kind makes is what is read. -/
theorem yields_tagged (makes : ∀ kind ∈ type.kinds, Makes kind.2 (depth + 1) P) :
    Yields type.reader (depth + 1) P := by
  intro c a c' read
  unfold TaggedType.reader at read
  dsimp only at read
  split at read
  · cases read
  · rename_i make rest _ parts
    have split : Split type depth (make, rest) := by
      split at parts
      · cases parts
      · exact yields_enclosed yields_taggedItems _ _ _ parts
      · exact yields_enclosed
          (yields_taggedMembers _ true (by simp) (List.forall_mem_nil _)) _ _ _ parts
      · cases parts
    obtain ⟨⟨name, member⟩, within⟩ := split
    split at read
    · cases read
      exact makes _ member rest within a ‹_›
    · cases read

theorem kindOf_mem {v : Value} {make : TaggedType.Maker ρ} (known : type.kindOf v = .ok make) :
    ∃ name, (name, make) ∈ type.kinds := by
  unfold TaggedType.kindOf at known
  split at known
  · exact variantOf_mem known
  · split at known
    · rename_i name _ found
      cases known
      exact ⟨name, List.mem_of_getElem? found⟩
    · cases known
  · cases known

theorem splitMembers_split {members others rest : List (String × Value)}
    {kind? : Option (TaggedType.Maker ρ)} {make : TaggedType.Maker ρ}
    (known : ∀ make ∈ kind?, ∃ name, (name, make) ∈ type.kinds)
    (within : ∀ member ∈ members, member.2.Within Number.Ranged depth)
    (before : ∀ member ∈ others, member.2.Within Number.Ranged depth)
    (split : type.splitMembers members kind? others = .ok (make, rest)) :
    Split type depth (make, .object rest) := by
  induction members generalizing kind? others with
  | nil =>
      unfold TaggedType.splitMembers at split
      cases kind? with
      | none => cases split
      | some kind =>
          cases split
          exact ⟨known make rfl, .object (by simpa using before)⟩
  | cons member members ih =>
      obtain ⟨here, within⟩ := List.forall_mem_cons.mp within
      unfold TaggedType.splitMembers at split
      split_ifs at split
      · split at split
        · rename_i kind kindOf
          refine ih (fun make same => ?_) within before split
          obtain rfl := Option.some.inj same
          exact kindOf_mem kindOf
        · cases split
      · exact ih known within (List.forall_mem_cons.mpr ⟨here, before⟩) split

/-- What every kind makes is what is made of members among which the tag is. -/
theorem ofMembers_makes (makes : ∀ kind ∈ type.kinds, Makes kind.2 (depth + 1) P)
    {members : List (String × Value)}
    (within : ∀ member ∈ members, member.2.Within Number.Ranged depth) {a : ρ}
    (made : type.ofMembers members = .ok a) : P a := by
  unfold TaggedType.ofMembers at made
  split at made
  · rename_i make others split
    obtain ⟨⟨name, member⟩, inside⟩ :=
      splitMembers_split (by simp) within (List.forall_mem_nil _) split
    exact makes _ member _ inside a made
  · cases made

end Tagged

/-! ### Values that are decoded -/

/-- Whether a decoder, from values that are at most so deep, gives only what has a property. -/
def Gives {α : Type} (decode : Decoder α) (depth : Nat) (P : α → Prop) : Prop :=
  ∀ v, v.Within Number.Ranged depth → ∀ a, decode v = .ok a → P a

section Decoders

variable {α : Type} {depth : Nat} {P : α → Prop}

theorem gives_any (decode : Decoder α) : Gives decode depth fun _ => True :=
  fun _ _ _ _ => trivial

theorem gives_value : Gives Decoder.value depth (Value.Sound depth) := by
  intro v within a decoded
  cases decoded
  exact within.sound

theorem gives_count : Gives Decoder.count depth (· ≤ Reader.maxWord) := by
  intro v _ n decoded
  unfold Decoder.count at decoded
  split at decoded
  · exact naturalOf_le decoded
  · cases decoded

theorem mapM_forall {β ε : Type} {f : β → Except ε α} {bs : List β} {as : List α}
    (good : ∀ b ∈ bs, ∀ a, f b = .ok a → P a) (mapped : bs.mapM f = .ok as) : ∀ a ∈ as, P a := by
  induction bs generalizing as with
  | nil =>
      cases mapped
      exact List.forall_mem_nil _
  | cons b bs ih =>
      obtain ⟨first, others⟩ := List.forall_mem_cons.mp good
      rw [List.mapM_cons] at mapped
      cases one : f b with
      | error e => simp [one, bind, Except.bind] at mapped
      | ok a =>
          cases more : bs.mapM f with
          | error e => simp [one, more, bind, Except.bind] at mapped
          | ok rest =>
              obtain rfl : a :: rest = as := by
                simpa [one, more, bind, Except.bind, pure, Except.pure] using mapped
              exact List.forall_mem_cons.mpr ⟨first a one, ih others more⟩

theorem gives_list {decode : Decoder α} (gives : Gives decode depth P) :
    Gives (Decoder.list decode) (depth + 1) fun as => ∀ a ∈ as, P a := by
  intro v within as decoded
  unfold Decoder.list at decoded
  split at decoded
  · obtain _ | _ | _ | _ | each := within
    exact mapM_forall (fun item member => gives item (each item member)) decoded
  · cases decoded

theorem gives_map {decode : Decoder α} (gives : Gives decode depth P) :
    Gives (Decoder.map decode) (depth + 1) fun map =>
      SortedMap.Sorted map ∧ ∀ entry ∈ map, P entry.2 := by
  intro v within map decoded
  unfold Decoder.map at decoded
  split at decoded
  · rename_i members
    obtain _ | _ | _ | _ | _ | each := within
    simp only [bind, Except.bind] at decoded
    split at decoded
    · cases decoded
    · rename_i entries mapped
      cases decoded
      have good : ∀ entry ∈ entries, P entry.2 := by
        refine mapM_forall (fun member inside entry named => ?_) mapped
        obtain ⟨a, decoded, rfl⟩ := exists_of_map_eq_ok named
        exact gives member.2 (each member inside) a decoded
      exact ⟨SortedMap.sorted_ofEntries entries,
        fun entry member => good entry (SortedMap.mem_ofEntries member)⟩
  · cases decoded

/-- Whether entering the part keeps what is true of a record. -/
def Part.Keeps {ρ : Type} (part : Part ρ) (depth : Nat) (P : ρ → Prop) : Prop :=
  Gives part.decode depth fun enter => ∀ record, P record → P (enter record)

end Decoders

section Parts

variable {ρ α : Type} {depth : Nat} {P : ρ → Prop} {Q : α → Prop}

theorem keeps_needed {name : String} {decode : Decoder α} {enter : ρ → α → ρ}
    (gives : Gives decode depth Q) (kept : ∀ record a, P record → Q a → P (enter record a)) :
    (Part.needed name decode enter).Keeps depth P := by
  intro v within entering entered record holds
  obtain ⟨a, decoded, rfl⟩ := exists_of_map_eq_ok entered
  exact kept record a holds (gives v within a decoded)

theorem keeps_optional {name : String} {decode : Decoder α} {enter : ρ → α → ρ}
    (gives : Gives decode depth Q) (kept : ∀ record a, P record → Q a → P (enter record a)) :
    (Part.optional name decode enter).Keeps depth P := by
  have needed : (Part.needed name decode enter).Keeps depth P := keeps_needed gives kept
  exact needed

variable {type : Variant ρ} (keeps : ∀ part ∈ type.parts, part.Keeps depth P)
include keeps

theorem ofMembers_keeps {members : List (String × Value)}
    (within : ∀ member ∈ members, member.2.Within Number.Ranged depth) {seen : List String}
    {record result : ρ} (holds : P record)
    (made : type.ofMembers members seen record = .ok result) : P result := by
  induction members generalizing seen record with
  | nil =>
      rw [Variant.ofMembers] at made
      split at made
      · cases made
      · cases made
        exact holds
  | cons member members ih =>
      obtain ⟨here, within⟩ := List.forall_mem_cons.mp within
      rw [Variant.ofMembers] at made
      split at made
      · rename_i part found
        split at made
        · cases made
        · split at made
          · rename_i enter entered
            have kept := keeps part (List.mem_of_find?_eq_some found) _ here enter entered
            exact ih within (kept record holds) made
          · cases made
      · exact ih within holds made

theorem ofItems_keeps {parts : List (Part ρ)} (among : ∀ part ∈ parts, part ∈ type.parts)
    {index : Nat} {items : List Value}
    (within : ∀ item ∈ items, item.Within Number.Ranged depth) {record result : ρ}
    (holds : P record) (made : type.ofItems parts index items record = .ok result) : P result := by
  induction parts generalizing index items record with
  | nil =>
      rw [Variant.ofItems] at made
      split at made
      · cases made
        exact holds
      · cases made
  | cons part parts ih =>
      obtain ⟨known, among⟩ := List.forall_mem_cons.mp among
      cases items with
      | nil =>
          rw [Variant.ofItems] at made
          split at made
          · cases made
          · exact ih among (List.forall_mem_nil _) holds made
      | cons item items =>
          obtain ⟨here, within⟩ := List.forall_mem_cons.mp within
          rw [Variant.ofItems] at made
          split at made
          · rename_i enter entered
            exact ih among within (keeps part known item here enter entered record holds) made
          · cases made

theorem makes_variant (blank : P type.blank) : Makes type.decode (depth + 1) P := by
  intro rest within a made
  unfold Variant.decode at made
  split at made
  · obtain _ | _ | _ | _ | _ | each := within
    exact ofMembers_keeps keeps each blank made
  · obtain _ | _ | _ | _ | each := within
    exact ofItems_keeps keeps (fun _ => id) each blank made
  · cases made

omit keeps in
/-- What is made of a variant has what was kept by its parts. -/
theorem makes_map {σ : Type} {make : ρ → σ} {R : σ → Prop} (blank : R (make type.blank))
    (kept : ∀ part ∈ type.parts, part.Keeps depth fun record => R (make record)) :
    Makes (fun rest => (type.decode rest).map make) (depth + 1) R := by
  intro rest within a made
  obtain ⟨record, decoded, rfl⟩ := exists_of_map_eq_ok made
  exact makes_variant kept blank rest within record decoded

end Parts

end Json

end Rehearsal

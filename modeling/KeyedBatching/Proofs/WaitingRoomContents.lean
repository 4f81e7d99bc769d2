import KeyedBatching.WaitingRoom
import Mathlib.Data.List.Nodup

/-!
# What a waiting room holds

The requests of all waiting lists together form the contents of a waiting room.
Parking adds one request to the contents.  Unblocking a key either takes a
request of that key out, or finds that none waits and changes nothing.  Both
facts need the table to be sound: its keys are distinct, no list is empty,
and every request waits under its own key.
-/

namespace KeyedBatching

namespace KeyTable

variable {K V : Type} [DecidableEq K]

/-- A value that is found splits the entries at the first entry of its key. -/
theorem find_eq_some_split {key : K} {value : V} {entries : List (K × V)}
    (found : find key entries = some value) :
    ∃ before after, entries = before ++ (key, value) :: after ∧
      key ∉ before.map Prod.fst := by
  induction entries with
  | nil => simp [find] at found
  | cons entry rest ih =>
      obtain ⟨existing, old⟩ := entry
      by_cases same : existing = key
      · subst same
        have equal : old = value := by simpa [find] using found
        subst equal
        exact ⟨[], rest, rfl, by simp⟩
      · have later : find key rest = some value := by simpa [find, same] using found
        obtain ⟨before, after, split, absent⟩ := ih later
        refine ⟨(existing, old) :: before, after, by simp [split], ?_⟩
        simpa [Ne.symm same] using absent

/-- Replacing acts on the first entry of the key. -/
theorem replace_split {key : K} (value old : V) {before : List (K × V)}
    (after : List (K × V)) (absent : key ∉ before.map Prod.fst) :
    replace key value (before ++ (key, old) :: after) = before ++ (key, value) :: after := by
  induction before with
  | nil => simp [replace]
  | cons entry rest ih =>
      obtain ⟨existing, other⟩ := entry
      simp only [List.map_cons, List.mem_cons, not_or] at absent
      simp [replace, Ne.symm absent.1, ih absent.2]

/-- A key without an entry gets one at the end. -/
theorem replace_absent {key : K} (value : V) {entries : List (K × V)}
    (absent : key ∉ entries.map Prod.fst) :
    replace key value entries = entries ++ [(key, value)] := by
  induction entries with
  | nil => rfl
  | cons entry rest ih =>
      obtain ⟨existing, other⟩ := entry
      simp only [List.map_cons, List.mem_cons, not_or] at absent
      simp [replace, Ne.symm absent.1, ih absent.2]

/-- With distinct keys, erasing removes exactly the entry of the key. -/
theorem filter_split {key : K} {value : V} {before after : List (K × V)}
    (distinct : ((before ++ (key, value) :: after).map Prod.fst).Nodup) :
    (before ++ (key, value) :: after).filter (fun entry => entry.1 ≠ key) =
      before ++ after := by
  have absent : key ∉ (before ++ after).map Prod.fst := by
    have middle : ((key, value) :: (before ++ after)).map Prod.fst |>.Nodup :=
      (List.perm_middle.map Prod.fst).nodup_iff.mp distinct
    exact (List.nodup_cons.mp middle).1
  have others : (before ++ after).filter (fun entry => entry.1 ≠ key) = before ++ after := by
    apply List.filter_eq_self.mpr
    intro entry member
    have differs : entry.1 ≠ key := fun same =>
      absent (List.mem_map.mpr ⟨entry, member, same⟩)
    simpa using differs
  rw [List.filter_append] at others ⊢
  simpa using others

/-- An entry after putting is the new one or was there before. -/
theorem mem_entries_put {table : KeyTable K V} {key : K} {value : V} {entry : K × V}
    (member : entry ∈ (table.put key value).entries) :
    entry = (key, value) ∨ entry ∈ table.entries := by
  obtain ⟨entries⟩ := table
  cases found : find key entries with
  | none =>
      have absent : key ∉ entries.map Prod.fst := find_eq_none_iff.mp found
      rw [put, replace_absent value absent, List.mem_append, List.mem_singleton] at member
      exact member.symm
  | some old =>
      obtain ⟨before, after, split, absent⟩ := find_eq_some_split found
      rw [put, split, replace_split value old after absent] at member
      rw [split]
      simp only [List.mem_append, List.mem_cons] at member ⊢
      tauto

theorem mem_entries_erase {table : KeyTable K V} {key : K} {entry : K × V}
    (member : entry ∈ (table.erase key).entries) : entry ∈ table.entries :=
  (List.mem_filter.mp member).1

end KeyTable

namespace WaitingList

/-- Inserting keeps every item and adds the new one. -/
theorem items_insert_perm {α : Type} [Prioritized α] (item : α) (list : WaitingList α) :
    (list.insert item).items.Perm (item :: list.items) := by
  have parts : list.items.take (list.position item) ++ list.items.drop (list.position item) =
      list.items := List.take_append_drop _ _
  calc
    (list.insert item).items
        = list.items.take (list.position item) ++
            item :: list.items.drop (list.position item) := rfl
    List.Perm _ (item :: (list.items.take (list.position item) ++
            list.items.drop (list.position item))) := List.perm_middle
    _ = item :: list.items := by rw [parts]

end WaitingList

namespace WaitingRoom

variable {K P : Type}

/-- The waiting requests, list by list. -/
def requests (room : WaitingRoom K P) : List (Request K P) :=
  room.lists.entries.flatMap fun entry => entry.2.items

/-- What holds of every waiting room that was empty once. -/
structure IsSound (room : WaitingRoom K P) : Prop where
  keysDistinct : room.lists.keys.Nodup
  listsNonempty : ∀ entry ∈ room.lists.entries, entry.2.items ≠ []
  listsKeyed : ∀ entry ∈ room.lists.entries, ∀ request ∈ entry.2.items, request.key = entry.1
  sizeCounts : room.size = room.requests.length

theorem isSound_empty : ({} : WaitingRoom K P).IsSound :=
  ⟨List.nodup_nil, by simp, by simp, rfl⟩

theorem mem_requests {room : WaitingRoom K P} {request : Request K P} :
    request ∈ room.requests ↔ ∃ entry ∈ room.lists.entries, request ∈ entry.2.items :=
  List.mem_flatMap

/-- The requests of a table that is split at one entry. -/
theorem requests_split {room : WaitingRoom K P} {key : K}
    {before after : List (K × WaitingList (Request K P))} {list : WaitingList (Request K P)}
    (split : room.lists.entries = before ++ (key, list) :: after) :
    room.requests.Perm
      (list.items ++ (before ++ after).flatMap fun entry => entry.2.items) := by
  rw [requests, split]
  exact List.perm_middle.flatMap_right _

variable [DecidableEq K]

/-! ## Parking a request -/

/-- Parking adds one request to the contents. -/
theorem requests_enqueue_perm (room : WaitingRoom K P) (request : Request K P) :
    (room.enqueue request).requests.Perm (request :: room.requests) := by
  cases found : room.lists.get? request.key with
  | none =>
      have absent := KeyTable.get?_eq_none_iff.mp found
      have entries : (room.enqueue request).lists.entries =
          room.lists.entries ++ [(request.key, ⟨[request]⟩)] := by
        simp only [enqueue, found, Option.getD_none]
        exact KeyTable.replace_absent _ absent
      rw [requests, entries, List.flatMap_append]
      exact List.perm_append_singleton request room.requests
  | some list =>
      obtain ⟨before, after, split, absent⟩ := KeyTable.find_eq_some_split found
      have entries : (room.enqueue request).lists.entries =
          before ++ (request.key, list.insert request) :: after := by
        simp only [enqueue, found, Option.getD_some]
        exact (congrArg _ split).trans (KeyTable.replace_split _ list after absent)
      calc
        (room.enqueue request).requests
        List.Perm _ ((list.insert request).items ++
            (before ++ after).flatMap fun entry => entry.2.items) := requests_split entries
        List.Perm _ (request :: list.items ++
            (before ++ after).flatMap fun entry => entry.2.items) :=
          (WaitingList.items_insert_perm request list).append_right _
        List.Perm _ (request :: room.requests) := (requests_split split).symm.cons request

theorem isSound_enqueue {room : WaitingRoom K P} (sound : room.IsSound)
    (request : Request K P) : (room.enqueue request).IsSound := by
  let list := (room.lists.get? request.key).getD {}
  have inserted : ∀ other, other ∈ (list.insert request).items ↔
      other = request ∨ other ∈ list.items := fun other => by
    rw [(WaitingList.items_insert_perm request list).mem_iff, List.mem_cons]
  have keyed : ∀ other ∈ list.items, other.key = request.key := by
    intro other member
    cases found : room.lists.get? request.key with
    | none => simp [list, found] at member
    | some old =>
        obtain ⟨before, after, split, _⟩ := KeyTable.find_eq_some_split found
        have within : (request.key, old) ∈ room.lists.entries := by simp [split]
        have waits : other ∈ old.items := by simpa [list, found] using member
        exact sound.listsKeyed _ within other waits
  refine ⟨KeyTable.keys_put_nodup sound.keysDistinct _ _, ?_, ?_, ?_⟩
  · intro entry member
    rcases KeyTable.mem_entries_put member with rfl | old
    · exact List.ne_nil_of_mem ((inserted request).mpr (.inl rfl))
    · exact sound.listsNonempty entry old
  · intro entry member other waits
    rcases KeyTable.mem_entries_put member with rfl | old
    · rcases (inserted other).mp waits with rfl | before
      · rfl
      · exact keyed other before
    · exact sound.listsKeyed entry old other waits
  · rw [(requests_enqueue_perm room request).length_eq, List.length_cons, ← sound.sizeCounts]
    rfl

/-! ## Unblocking a key -/

/-- The room once the first request of a key has left and `later` wait behind it. -/
def afterTaking (room : WaitingRoom K P) (key : K) (later : List (Request K P)) :
    WaitingRoom K P :=
  { lists := if later.isEmpty then room.lists.erase key else room.lists.put key ⟨later⟩
    size := room.size - 1 }

theorem unblockOne_of_found {room : WaitingRoom K P} {key : K} {next : Request K P}
    {later : List (Request K P)} (found : room.lists.get? key = some ⟨next :: later⟩) :
    room.unblockOne key = (some next, room.afterTaking key later) := by
  simp only [unblockOne, found, WaitingList.popFront, WaitingList.isEmpty, afterTaking]
  rfl

/-- A list after taking is the shortened one, which is kept only if it holds something, or it
was there before. -/
theorem mem_entries_afterTaking {room : WaitingRoom K P} {key : K}
    {later : List (Request K P)} {entry : K × WaitingList (Request K P)}
    (member : entry ∈ (room.afterTaking key later).lists.entries) :
    (entry = (key, ⟨later⟩) ∧ later ≠ []) ∨ entry ∈ room.lists.entries := by
  cases later with
  | nil => exact .inr (KeyTable.mem_entries_erase member)
  | cons second others =>
      rcases KeyTable.mem_entries_put member with shortened | old
      · exact .inl ⟨shortened, List.cons_ne_nil _ _⟩
      · exact .inr old

theorem keys_afterTaking_nodup {room : WaitingRoom K P} (distinct : room.lists.keys.Nodup)
    (key : K) (later : List (Request K P)) : (room.afterTaking key later).lists.keys.Nodup := by
  cases later with
  | nil => exact KeyTable.keys_erase_nodup distinct key
  | cons second others => exact KeyTable.keys_put_nodup distinct key _

/-- Taking removes exactly the first request of the key from the contents. -/
theorem requests_afterTaking_perm {room : WaitingRoom K P} (distinct : room.lists.keys.Nodup)
    {key : K} {next : Request K P} {later : List (Request K P)}
    (found : room.lists.get? key = some ⟨next :: later⟩) :
    room.requests.Perm (next :: (room.afterTaking key later).requests) := by
  obtain ⟨before, after, split, absent⟩ := KeyTable.find_eq_some_split found
  have remaining : (room.afterTaking key later).requests.Perm
      (later ++ (before ++ after).flatMap fun entry => entry.2.items) := by
    cases later with
    | nil =>
        have entries : (room.afterTaking key []).lists.entries = before ++ after := by
          rw [KeyTable.keys, split] at distinct
          exact (congrArg _ split).trans (KeyTable.filter_split distinct)
        rw [requests, entries]
        exact List.Perm.refl _
    | cons second others =>
        have entries : (room.afterTaking key (second :: others)).lists.entries =
            before ++ (key, ⟨second :: others⟩) :: after :=
          (congrArg _ split).trans (KeyTable.replace_split _ _ after absent)
        exact requests_split entries
  exact (requests_split split).trans (remaining.symm.cons next)

theorem isSound_afterTaking {room : WaitingRoom K P} (sound : room.IsSound)
    {key : K} {next : Request K P} {later : List (Request K P)}
    (found : room.lists.get? key = some ⟨next :: later⟩) :
    (room.afterTaking key later).IsSound := by
  have within : (key, ⟨next :: later⟩) ∈ room.lists.entries := by
    obtain ⟨before, after, split, _⟩ := KeyTable.find_eq_some_split found
    simp [split]
  refine ⟨keys_afterTaking_nodup sound.keysDistinct key later, ?_, ?_, ?_⟩
  · intro entry member
    rcases mem_entries_afterTaking member with ⟨rfl, nonempty⟩ | old
    · exact nonempty
    · exact sound.listsNonempty entry old
  · intro entry member request waits
    rcases mem_entries_afterTaking member with ⟨rfl, _⟩ | old
    · exact sound.listsKeyed _ within request (List.mem_cons_of_mem next waits)
    · exact sound.listsKeyed entry old request waits
  · have counted := (requests_afterTaking_perm sound.keysDistinct found).length_eq
    rw [List.length_cons, ← sound.sizeCounts] at counted
    simp only [afterTaking] at counted ⊢
    omega

/-- A key is unblocked in one of two ways: nothing waits for it and nothing changes, or one of
its requests leaves the contents. -/
theorem unblockOne_cases {room : WaitingRoom K P} (sound : room.IsSound) (key : K) :
    (room.unblockOne key = (none, room) ∧ ∀ request ∈ room.requests, request.key ≠ key) ∨
      ∃ next rest, room.unblockOne key = (some next, rest) ∧ next.key = key ∧
        room.requests.Perm (next :: rest.requests) ∧ rest.IsSound := by
  cases found : room.lists.get? key with
  | none =>
      left
      refine ⟨by simp [unblockOne, found], ?_⟩
      intro request waits same
      obtain ⟨entry, member, within⟩ := mem_requests.mp waits
      have keyed := sound.listsKeyed entry member request within
      have absent := KeyTable.get?_eq_none_iff.mp found
      exact absent (List.mem_map.mpr ⟨entry, member, keyed.symm.trans same⟩)
  | some list =>
      right
      obtain ⟨before, after, split, _⟩ := KeyTable.find_eq_some_split found
      have within : (key, list) ∈ room.lists.entries := by simp [split]
      obtain ⟨items⟩ := list
      cases items with
      | nil => exact absurd rfl (sound.listsNonempty _ within)
      | cons next later =>
          exact ⟨next, room.afterTaking key later, unblockOne_of_found found,
            sound.listsKeyed _ within next List.mem_cons_self,
            requests_afterTaking_perm sound.keysDistinct found,
            isSound_afterTaking sound found⟩

/-- A key that the table holds is the key of a waiting request. -/
theorem exists_request_of_contains {room : WaitingRoom K P} (sound : room.IsSound) {key : K}
    (held : room.contains key = true) : ∃ request ∈ room.requests, request.key = key := by
  obtain ⟨list, found⟩ := Option.isSome_iff_exists.mp held
  obtain ⟨before, after, split, _⟩ := KeyTable.find_eq_some_split found
  have within : (key, list) ∈ room.lists.entries := by simp [split]
  obtain ⟨request, waits⟩ := List.exists_mem_of_ne_nil _ (sound.listsNonempty _ within)
  exact ⟨request, mem_requests.mpr ⟨_, within, waits⟩, sound.listsKeyed _ within request waits⟩

end WaitingRoom

end KeyedBatching

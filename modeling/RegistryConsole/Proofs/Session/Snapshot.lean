import RegistryConsole.Proofs.Instant.Rfc3339
import RegistryConsole.Proofs.Session.Storage
import RegistryConsole.Proofs.Text.Split
/-!
# Laws of session snapshots

When a storage gives a session back, and which. The groups of a snapshot are not those the registry
sent: they are joined into one text, so what is read back are their non-empty pieces.
-/
namespace RegistryConsole

namespace Snapshot

variable {now : Instant} {s : Storage} {session : Session}

private theorem splitGroups_append (a b : List Char) :
    splitGroups (String.ofList (a ++ groupMark :: b)) =
      splitGroups (String.ofList a) ++ splitGroups (String.ofList b) := by
  simp only [splitGroups, Text.splitString, String.toList_ofList, Text.split_append,
    List.map_append, List.filter_append]

/-- Reading the groups of an item gives the non-empty pieces of every group that was written. -/
theorem splitGroups_joinGroups (groups : List String) :
    splitGroups (joinGroups groups) = groups.flatMap splitGroups := by
  induction groups with
  | nil => rfl
  | cons g rest ih =>
      cases rest with
      | nil => simp [joinGroups, Text.join]
      | cons g' rest =>
          have hjoin : joinGroups (g :: g' :: rest) =
              String.ofList (g.toList ++ groupMark :: (joinGroups (g' :: rest)).toList) := by
            simp [joinGroups, Text.join]
          rw [hjoin, splitGroups_append, String.ofList_toList, String.ofList_toList,
            List.flatMap_cons, ih]

theorem session?_eq_some {name email groups expiry : Option String} :
    session? now name email groups expiry = some session ↔
      name = some session.userName ∧ email = some session.userEmail ∧
        (∃ text, groups = some text ∧ session.userGroups = splitGroups text) ∧
        (∃ text, expiry = some text ∧ Instant.strict? text = some session.expireAt) ∧
        session.userName ≠ "" ∧ session.userEmail ≠ "" ∧ now.before session.expireAt = true := by
  obtain ⟨userName, userEmail, userGroups, expireAt⟩ := session
  constructor
  · intro h
    cases name with
    | none => cases h
    | some name =>
    cases email with
    | none => cases h
    | some email =>
    cases groups with
    | none => cases h
    | some groups =>
    cases expiry with
    | none => cases h
    | some expiry =>
    change (if name.isEmpty || email.isEmpty then none
      else (Instant.strict? expiry).bind fun expireAt =>
        if now.before expireAt then
          some (⟨name, email, splitGroups groups, expireAt⟩ : Session) else none) = _ at h
    split at h
    · cases h
    next hnames =>
      obtain ⟨t, ht, h⟩ := Option.bind_eq_some_iff.mp h
      split at h
      next hbefore =>
        cases h
        simp only [Bool.or_eq_true, String.isEmpty_iff, not_or] at hnames
        exact ⟨rfl, rfl, ⟨_, rfl, rfl⟩, ⟨_, rfl, ht⟩, hnames.1, hnames.2, hbefore⟩
      next => cases h
  · rintro ⟨rfl, rfl, ⟨groups, rfl, rfl⟩, ⟨expiry, rfl, hstrict⟩, hname, hemail, hbefore⟩
    change (if userName.isEmpty || userEmail.isEmpty then none
      else (Instant.strict? expiry).bind fun expireAt =>
        if now.before expireAt then
          some (⟨userName, userEmail, splitGroups groups, expireAt⟩ : Session) else none) = _
    have hnames : ¬ (userName.isEmpty || userEmail.isEmpty) = true := by
      simp only [Bool.or_eq_true, String.isEmpty_iff, not_or]
      exact ⟨hname, hemail⟩
    rw [if_neg hnames, hstrict, Option.bind_some, if_pos hbefore]

/-- All four items are there, the user has a name and an address, and the time has not come. -/
structure Available (now : Instant) (s : Storage) (session : Session) : Prop where
  name : s.value? nameKey = some (.string session.userName)
  email : s.value? emailKey = some (.string session.userEmail)
  groups : ∃ text, s.value? groupsKey = some (.string text) ∧
    session.userGroups = splitGroups text
  expiry : ∃ text, s.value? expiryKey = some (.string text) ∧
    Instant.strict? text = some session.expireAt
  name_ne : session.userName ≠ ""
  email_ne : session.userEmail ≠ ""
  unexpired : now.before session.expireAt = true

private theorem load_eq (now : Instant) (s : Storage) :
    load now s = (s.get nameKey).bind fun name => (s.get emailKey).bind fun email =>
      (s.get groupsKey).bind fun groups => (s.get expiryKey).bind fun expiry =>
        .ok (session? now name email groups expiry) := rfl

theorem Available.of_load (h : load now s = .ok (some session)) : Available now s session := by
  rw [load_eq] at h
  cases hname : s.get nameKey with
  | error e => simp [hname, Except.bind] at h
  | ok name =>
  cases hemail : s.get emailKey with
  | error e => simp [hname, hemail, Except.bind] at h
  | ok email =>
  cases hgroups : s.get groupsKey with
  | error e => simp [hname, hemail, hgroups, Except.bind] at h
  | ok groups =>
  cases hexpiry : s.get expiryKey with
  | error e => simp [hname, hemail, hgroups, hexpiry, Except.bind] at h
  | ok expiry =>
  simp only [hname, hemail, hgroups, hexpiry, Except.bind, Except.ok.injEq] at h
  obtain ⟨rfl, rfl, ⟨groups, rfl, hg⟩, ⟨expiry, rfl, ht⟩, hne, hne', hbefore⟩ :=
    session?_eq_some.mp h
  exact ⟨Storage.value?_of_get hname, Storage.value?_of_get hemail,
    ⟨groups, Storage.value?_of_get hgroups, hg⟩, ⟨expiry, Storage.value?_of_get hexpiry, ht⟩,
    hne, hne', hbefore⟩

private theorem get_of_texts (hopen : s.IsOpen) {key : String} {text : Option String}
    (h : s.value? key = text.map .string) : s.get key = .ok text := by
  rw [Storage.get_of_isOpen hopen, h]
  cases text with
  | none => rfl
  | some text => rfl

theorem load_of_texts (hopen : s.IsOpen) (name email groups expiry : Option String)
    (hname : s.value? nameKey = name.map .string) (hemail : s.value? emailKey = email.map .string)
    (hgroups : s.value? groupsKey = groups.map .string)
    (hexpiry : s.value? expiryKey = expiry.map .string) :
    load now s = .ok (session? now name email groups expiry) := by
  rw [load_eq, get_of_texts hopen hname, get_of_texts hopen hemail, get_of_texts hopen hgroups,
    get_of_texts hopen hexpiry]
  rfl

theorem load_congr {s' : Storage} (hopen : s.IsOpen) (hopen' : s'.IsOpen)
    (h : s.items = s'.items) : load now s = load now s' := by
  simp only [load_eq, Storage.get_of_isOpen hopen, Storage.get_of_isOpen hopen', Storage.value?, h]

theorem keys_nodup : keys.Nodup := by
  decide

@[simp] theorem itemsOf_keys (details : SessionDetails) (expireAt : Instant) :
    (itemsOf details expireAt).map Prod.fst = keys := rfl

/-- The items of a snapshot that tell of the user, all but the time. -/
def userItems (details : SessionDetails) : List (String × String) :=
  [(nameKey, details.name), (emailKey, details.email), (groupsKey, joinGroups details.groups)]

theorem itemsOf_eq (details : SessionDetails) (expireAt : Instant) :
    itemsOf details expireAt = userItems details ++ [(expiryKey, expireAt.text .numeric)] := rfl

theorem expiryKey_not_mem_userItems (details : SessionDetails) :
    expiryKey ∉ (userItems details).map Prod.fst :=
  (by decide : expiryKey ∉ [nameKey, emailKey, groupsKey])

theorem mem_keys_of_mem_itemsOf {details : SessionDetails} {expireAt : Instant}
    {item : String × String} (h : item ∈ itemsOf details expireAt) : item.1 ∈ keys := by
  rw [← itemsOf_keys details expireAt]
  exact List.mem_map_of_mem h

theorem eq_of_mem_userItems_name {details : SessionDetails} {text : String}
    (h : (nameKey, text) ∈ userItems details) : text = details.name := by
  simpa [userItems, nameKey, emailKey, groupsKey] using h

theorem eq_of_mem_userItems_email {details : SessionDetails} {text : String}
    (h : (emailKey, text) ∈ userItems details) : text = details.email := by
  simpa [userItems, nameKey, emailKey, groupsKey] using h

theorem eq_of_mem_userItems_groups {details : SessionDetails} {text : String}
    (h : (groupsKey, text) ∈ userItems details) : text = joinGroups details.groups := by
  simpa [userItems, nameKey, emailKey, groupsKey] using h

/-- Of the texts of a snapshot, only the last is written under the key of its time. -/
theorem eq_of_mem_itemsOf_expiry {details : SessionDetails} {expireAt : Instant} {text : String}
    (h : (expiryKey, text) ∈ itemsOf details expireAt) : text = expireAt.text .numeric := by
  have hname : expiryKey ≠ nameKey := by decide
  have hemail : expiryKey ≠ emailKey := by decide
  have hgroups : expiryKey ≠ groupsKey := by decide
  simpa [itemsOf, hname, hemail, hgroups] using h

theorem refresh_of_isOpen (hopen : s.IsOpen) (ttl : Instant.Span)
    (answer : Envelope SessionDetails) :
    (refresh now ttl answer s).1 = .ok () ∧ (refresh now ttl answer s).2.IsOpen := by
  cases answer with
  | error message details => exact ⟨rfl, hopen⟩
  | ok details =>
      refine ⟨(Storage.setAll_of_isOpen hopen (itemsOf details (now.add ttl)) keys_nodup).1, ?_⟩
      intro access
      rw [refresh, Storage.setAll_refuses, hopen]

theorem load_of_itemsOf (hopen : s.IsOpen) {details : SessionDetails} {expireAt : Instant}
    (h : ∀ item ∈ itemsOf details expireAt, s.value? item.1 = some (.string item.2)) :
    load now s = .ok (session? now (some details.name) (some details.email)
      (some (joinGroups details.groups)) (some (expireAt.text .numeric))) :=
  load_of_texts hopen (some details.name) (some details.email)
    (some (joinGroups details.groups)) (some (expireAt.text .numeric))
    (h (nameKey, details.name) (by simp [itemsOf]))
    (h (emailKey, details.email) (by simp [itemsOf]))
    (h (groupsKey, joinGroups details.groups) (by simp [itemsOf]))
    (h (expiryKey, expireAt.text .numeric) (by simp [itemsOf]))

theorem load_of_absent (hopen : s.IsOpen) (h : ∀ key ∈ keys, s.value? key = none) :
    load now s = .ok none :=
  load_of_texts hopen none none none none (h nameKey (by decide)) (h emailKey (by decide))
    (h groupsKey (by decide)) (h expiryKey (by decide))

/-- The session that is read from what a refresh writes. -/
def sessionOf (now : Instant) (ttl : Instant.Span) (details : SessionDetails) : Option Session :=
  session? now (some details.name) (some details.email) (some (joinGroups details.groups))
    (some ((now.add ttl).text .numeric))

theorem load_refresh (hopen : s.IsOpen) (ttl : Instant.Span) (answer : Envelope SessionDetails) :
    load now (refresh now ttl answer s).2 =
      (answer.data?.map fun details => .ok (sessionOf now ttl details)).getD (load now s) := by
  cases answer with
  | ok details =>
      exact load_of_itemsOf (refresh_of_isOpen hopen ttl (.ok details)).2
        (Storage.setAll_of_isOpen hopen (itemsOf details (now.add ttl)) keys_nodup).2
  | error message details => rfl

theorem refresh_tracks (now : Instant) (ttl : Instant.Span) (answer : Envelope SessionDetails)
    (s : Storage) : s.Tracks (refresh now ttl answer s).2 := by
  cases answer with
  | ok details => exact s.setAll_tracks _
  | error message details => exact .refl s

theorem clear_tracks (answer : Envelope Bool) (s : Storage) : s.Tracks (clear answer s).2 := by
  cases answer with
  | ok data => exact s.removeAll_tracks keys
  | error message details => exact .refl s

theorem Available.texts (h : Available now s session) :
    ∀ key ∈ keys, ∃ text, s.value? key = some (.string text) := by
  obtain ⟨groups, hgroups, -⟩ := h.groups
  obtain ⟨expiry, hexpiry, -⟩ := h.expiry
  intro key hkey
  simp only [keys, List.mem_cons, List.not_mem_nil, or_false] at hkey
  rcases hkey with rfl | rfl | rfl | rfl
  · exact ⟨_, h.name⟩
  · exact ⟨_, h.email⟩
  · exact ⟨_, hgroups⟩
  · exact ⟨_, hexpiry⟩

theorem clear_ok_of_available (hopen : s.IsOpen) (havailable : Available now s session)
    (data : Bool) : (clear (.ok data) s).1 = .ok () ∧ (clear (.ok data) s).2.IsOpen ∧
      ∀ key ∈ keys, (clear (.ok data) s).2.value? key = none := by
  have hok := Storage.removeAll_of_isOpen hopen keys fun key hkey =>
    .inr (havailable.texts key hkey)
  refine ⟨hok, ?_, Storage.value?_removeAll_ok s keys hok⟩
  intro access
  rw [clear, Storage.removeAll_refuses, hopen]

/-- A storage with an available snapshot takes a clear without fail, and a clear that the registry
accepted leaves no snapshot. -/
theorem clear_of_available (hopen : s.IsOpen) (havailable : Available now s session)
    (answer : Envelope Bool) :
    (clear answer s).1 = .ok () ∧ ((clear answer s).2 = s ∨
      (clear answer s).2.IsOpen ∧ ∀ now, load now (clear answer s).2 = .ok none) := by
  cases answer with
  | error message details => exact ⟨rfl, .inl rfl⟩
  | ok data =>
      obtain ⟨hok, hopen', habsent⟩ := clear_ok_of_available hopen havailable data
      exact ⟨hok, .inr ⟨hopen', fun _ => load_of_absent hopen' habsent⟩⟩

end Snapshot

end RegistryConsole

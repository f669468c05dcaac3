import PracticeClient.Proofs.Storage.Secrets

namespace PracticeClient.KeychainStore

/-- An entry of a batch is refused, the ones before it are not, and all of these can be removed. -/
structure Refused (store : KeychainStore) (keychain : Keychain) (written : List (String × String))
    (failing : String × String) : Prop where
  accepted : ∀ entry ∈ written, store.Allows keychain .set entry.1
  refused : ¬store.Allows keychain .set failing.1
  erasable : ∀ entry ∈ written, keychain.due .delete entry.1 = false
  loose : ¬store.Clings keychain failing.1

instance (store : KeychainStore) (keychain : Keychain) (written : List (String × String))
    (failing : String × String) : Decidable (store.Refused keychain written failing) :=
  decidable_of_iff
    ((∀ entry ∈ written, store.Allows keychain .set entry.1) ∧
      ¬store.Allows keychain .set failing.1 ∧
      (∀ entry ∈ written, keychain.due .delete entry.1 = false) ∧
      ¬store.Clings keychain failing.1)
    ⟨fun ⟨accepted, refused, erasable, loose⟩ => ⟨accepted, refused, erasable, loose⟩,
      fun all => ⟨all.accepted, all.refused, all.erasable, all.loose⟩⟩

theorem Refused.of_apart {store after : KeychainStore} {keychain keychain' : Keychain}
    {written : List (String × String)} {failing : String × String}
    (apart : ∀ key ∈ (written ++ [failing]).map Prod.fst,
      Apart key (store, keychain) (after, keychain'))
    (refused : store.Refused keychain written failing) :
    after.Refused keychain' written failing := by
  have mine (entry : String × String) (member : entry ∈ written) :=
    apart entry.1 (List.mem_map_of_mem (List.mem_append_left _ member))
  have last := apart failing.1 (by simp)
  constructor
  · exact fun entry member =>
      ((mine entry member).allows .set).2 (refused.accepted entry member)
  · exact fun allowed => refused.refused ((last.allows .set).1 allowed)
  · exact fun entry member =>
      ((mine entry member).due .delete).trans (refused.erasable entry member)
  · exact fun clings => refused.loose (last.clings.1 clings)

theorem Refused.tail {store : KeychainStore} {keychain : Keychain}
    {entry failing : String × String} {written : List (String × String)}
    (refused : store.Refused keychain (entry :: written) failing) :
    store.Refused keychain written failing :=
  ⟨(List.forall_mem_cons.1 refused.accepted).2, refused.refused,
    (List.forall_mem_cons.1 refused.erasable).2, refused.loose⟩

theorem allows_concat {store after : KeychainStore} {keychain keychain' : Keychain}
    {before : List String} {key : String}
    (apart : ∀ other ∈ before, Apart other (store, keychain) (after, keychain'))
    (erasable : ∀ other ∈ before, store.Allows keychain .delete other)
    (removable : after.Allows keychain' .delete key) :
    ∀ other ∈ before ++ [key], after.Allows keychain' .delete other := by
  intro other member
  rcases List.mem_append.1 member with early | last
  · exact ((apart other early).allows .delete).2 (erasable other early)
  · obtain rfl := List.mem_singleton.1 last
    exact removable

theorem run_removeMany_of_allows (store : KeychainStore) (machine : Machine) {keys : List String}
    (distinct : keys.Nodup)
    (allowed : ∀ key ∈ keys, store.Allows machine.keychain .delete key) : ∃ after keychain,
    (removeMany keys store).run Machine.quiet machine = (after, onKeychain machine keychain) ∧
      ∀ service key, keychain.get? service key =
        if service = store.service ∧ key ∈ keys then none
        else machine.keychain.get? service key := by
  obtain ⟨after, keychain, ran, -, gone, left⟩ := run_removeMany_secrets distinct store machine
  refine ⟨after, keychain, ran, ?_⟩
  intro service key
  by_cases member : key ∈ keys
  · rw [gone key member service]
    simp only [allowed key member, member]
  · rw [(left key member).secret, if_neg fun both => member both.2]

theorem run_setAfter_refused_first (store : KeychainStore) (machine : Machine)
    (before : List String) {failing : String × String} (rest : List (String × String))
    (distinct : (before ++ [failing.1]).Nodup) (refused : store.Refused machine.keychain [] failing)
    (erasable : ∀ key ∈ before, store.Allows machine.keychain .delete key) :
    ∃ after keychain, (setAfter before (failing :: rest) store).run Machine.quiet machine =
        (after, onKeychain machine keychain) ∧
      ∀ service key, keychain.get? service key =
        if service = store.service ∧ key ∈ before ++ [failing.1] then none
        else machine.keychain.get? service key := by
  obtain ⟨result, between, keychain', tried, same, secrets, -, failed, left⟩ :=
    run_trySet_secret store failing.1 machine failing.2
  obtain ⟨⟨error, rfl⟩, removable⟩ := failed refused.refused
  have differ {key : String} (member : key ∈ before) : key ≠ failing.1 := by
    rintro rfl
    exact (List.nodup_append.1 distinct).2.2 _ member _ (by simp) rfl
  have allowed := allows_concat (fun key member => left key (differ member)) erasable
    (removable.2 refused.loose)
  obtain ⟨after, keychain, ran, gone⟩ :=
    run_removeMany_of_allows between (onKeychain machine keychain') distinct allowed
  refine ⟨after, keychain, ?_, ?_⟩
  · rw [setAfter, Program.bind_eq, Program.run_bind, tried]
    exact ran
  · intro service key
    have kept : keychain'.get? service key = machine.keychain.get? service key := by
      by_cases tried : key = failing.1
      · rw [tried, secrets, if_neg fun both => refused.refused both.2]
      · exact (left key tried).secret service
    rw [gone, same]
    simp only [onKeychain, kept]

theorem run_setAfter_refused (store : KeychainStore) (machine : Machine) (before : List String)
    {written : List (String × String)} {failing : String × String} (rest : List (String × String))
    (distinct : (before ++ (written ++ [failing]).map Prod.fst).Nodup)
    (refused : store.Refused machine.keychain written failing)
    (erasable : ∀ key ∈ before, store.Allows machine.keychain .delete key) :
    ∃ after keychain, (setAfter before (written ++ failing :: rest) store).run Machine.quiet
        machine = (after, onKeychain machine keychain) ∧
      ∀ service key, keychain.get? service key =
        if service = store.service ∧ key ∈ before ++ (written ++ [failing]).map Prod.fst then none
        else machine.keychain.get? service key := by
  induction written generalizing before store machine with
  | nil => exact run_setAfter_refused_first store machine before rest distinct refused erasable
  | cons entry written ih =>
    have regrouped : before ++ (entry :: written ++ [failing]).map Prod.fst =
        (before ++ [entry.1]) ++ (written ++ [failing]).map Prod.fst := by simp
    rw [regrouped] at distinct
    obtain ⟨result, between, keychain', tried, same, secrets, stored, -, left⟩ :=
      run_trySet_secret store entry.1 machine entry.2
    have accepted := refused.accepted entry List.mem_cons_self
    obtain ⟨rfl, removable⟩ := stored accepted
    have later {other : String} (member : other ∈ (written ++ [failing]).map Prod.fst) :
        other ≠ entry.1 := by
      rintro rfl
      exact (List.nodup_append.1 distinct).2.2 _ (by simp) _ member rfl
    have earlier {other : String} (member : other ∈ before) : other ≠ entry.1 := by
      rintro rfl
      have fresh := (List.nodup_append.1 distinct).1
      exact (List.nodup_append.1 fresh).2.2 _ member _ (by simp) rfl
    -- Storing the first value changes nothing for the keys that are still to come.
    have still := refused.tail.of_apart fun key member => left key (later member)
    have allowed := allows_concat (fun key member => left key (earlier member)) erasable
      (removable.2 (refused.erasable entry List.mem_cons_self))
    obtain ⟨after, keychain, ran, gone⟩ :=
      ih between (onKeychain machine keychain') (before ++ [entry.1]) distinct still allowed
    refine ⟨after, keychain, ?_, ?_⟩
    · rw [List.cons_append, setAfter, Program.bind_eq, Program.run_bind, tried]
      exact ran
    · intro service key
      rw [gone, same, regrouped]
      -- What was stored on the way is among the keys that are removed.
      by_cases removed : service = store.service ∧
          key ∈ before ++ [entry.1] ++ (written ++ [failing]).map Prod.fst
      · rw [if_pos removed, if_pos removed]
      · rw [if_neg removed, if_neg removed]
        by_cases own : key = entry.1
        · subst own
          have foreign : service ≠ store.service := fun same => removed ⟨same, by simp⟩
          exact (secrets service).trans (if_neg fun both => foreign both.1)
        · exact (left key own).secret service

/-- What is stored before a refusal is removed again, and so is what was there under the refused
key; everything else stays, the keys after the refused one included. So a refused batch is gone only
if none of those was there. -/
theorem batch_gone_iff (store : KeychainStore) (machine : Machine) (events : List SystemEvent)
    (written : List (String × String)) (failing : String × String) (rest : List (String × String))
    (distinct : ((written ++ failing :: rest).map Prod.fst).Nodup)
    (refused : store.Refused machine.keychain written failing) :
    let after := ((setMany (written ++ failing :: rest) store).run Machine.handle
      (machine, events)).2.1.keychain
    (∀ service key, after.get? service key =
      if service = store.service ∧ key ∈ (written ++ [failing]).map Prod.fst then none
      else machine.keychain.get? service key) ∧
    ((∀ entry ∈ written ++ failing :: rest, after.get? store.service entry.1 = none) ↔
      ∀ entry ∈ rest, machine.keychain.get? store.service entry.1 = none) := by
  have regrouped : (written ++ failing :: rest).map Prod.fst =
      (written ++ [failing]).map Prod.fst ++ rest.map Prod.fst := by simp
  rw [regrouped] at distinct
  obtain ⟨early, -, apart⟩ := List.nodup_append.1 distinct
  obtain ⟨after, keychain, ran, gone⟩ :=
    run_setAfter_refused store machine [] rest early refused (by simp)
  have told := (Machine.run_quiet (setMany (written ++ failing :: rest) store) machine events).2
  rw [setMany, ran] at told
  rw [setMany, told]
  refine ⟨gone, ?_⟩
  constructor
  · intro all entry member
    have absent : entry.1 ∉ (written ++ [failing]).map Prod.fst := fun present =>
      apart _ present _ (List.mem_map_of_mem member) rfl
    have kept := gone store.service entry.1
    rw [List.nil_append, if_neg fun both => absent both.2] at kept
    exact kept.symm.trans (all entry (List.mem_append_right _ (List.mem_cons_of_mem _ member)))
  · intro unset entry member
    rw [onKeychain, gone]
    split
    · rfl
    · next kept =>
      apply unset
      have outside : entry ∉ written ++ [failing] := fun present =>
        kept ⟨rfl, List.mem_map_of_mem present⟩
      rw [← List.singleton_append, ← List.append_assoc] at member
      exact (List.mem_append.1 member).resolve_left outside

def refusingTokens (entries : List ((String × String) × Bytes)) : Machine :=
  { files := .empty, keychain := ⟨entries, [⟨.set, "token", .noAccess, none⟩]⟩ }

theorem batch_gone_without_username :
    let after := ((setMany [("token", "new"), ("username", "bob")] ⟨"pws", []⟩).run Machine.handle
      (refusingTokens [(("pws", "token"), Text.utf8 "old")], [])).2.1.keychain
    after.get? "pws" "token" = none ∧ after.get? "pws" "username" = none := by
  have gone := (batch_gone_iff ⟨"pws", []⟩ (refusingTokens [(("pws", "token"), Text.utf8 "old")])
    [] [] ("token", "new") [("username", "bob")] (by decide) (by decide)).2.2 (by decide)
  exact ⟨gone ("token", "new") (by simp), gone ("username", "bob") (by simp)⟩

theorem old_username_after_refused_token :
    ((setMany [("token", "new"), ("username", "bob")] ⟨"pws", []⟩).run Machine.handle
      (refusingTokens
        [(("pws", "token"), Text.utf8 "old"), (("pws", "username"), Text.utf8 "ana")],
        [])).2.1.keychain.get? "pws" "username" = some (Text.utf8 "ana") := by
  decide

end PracticeClient.KeychainStore

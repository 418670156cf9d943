import FieldText.Proofs.Sessions
import Mathlib.Data.List.Induction

/-!
What the memory of parsed format strings makes visible.  A parse that is found again yields what it yielded
before, so the memory shows in nothing but the notices: they are left when a format string is parsed, and
not when the result of an earlier parse is found.  Which results are found is settled by the calls so far.
They are those of the keys that were used last, as many as there is room for; a call that fails uses no key.

The memory itself never looks back that far.  It keeps its entries in the order of their last use, drops
what exceeds the capacity, and puts a key that is used again in front.  That this comes to the same as
cutting off the list of all keys ever used is the law `take_filter_take`.
-/

namespace FieldText

/-! ## Keys in the order of their last use -/

section Recency

variable {α : Type} [BEq α] [LawfulBEq α]

/-- To take a value out makes no difference to the order in which the others appear. -/
theorem eraseDups_filter_ne (value : α) (values : List α) :
    (values.filter fun other => !(other == value)).eraseDups =
      values.eraseDups.filter fun other => !(other == value) := by
  cases values with
  | nil => rfl
  | cons first rest =>
      by_cases same : first = value
      · subst same
        have gone : ∀ other ∈ (rest.filter fun other => !(other == first)).eraseDups,
            (!(other == first)) = true :=
          fun _ member => (List.mem_filter.mp (List.mem_eraseDups.mp member)).2
        rw [List.eraseDups_cons, List.filter_cons_of_neg (by simp), List.filter_cons_of_neg (by simp),
          List.filter_eq_self.mpr gone]
      · rw [List.eraseDups_cons, List.filter_cons_of_pos (by simpa using same),
          List.filter_cons_of_pos (by simpa using same), List.eraseDups_cons, ← eraseDups_filter_ne value,
          List.filter_filter, List.filter_filter]
        simp only [Bool.and_comm]
termination_by values.length
decreasing_by exact Nat.lt_succ_of_le (List.length_filter_le _ _)

theorem nodup_eraseDups (values : List α) : values.eraseDups.Nodup := by
  cases values with
  | nil => exact List.nodup_nil
  | cons first rest =>
      rw [List.eraseDups_cons, List.nodup_cons]
      refine ⟨fun member => ?_, nodup_eraseDups _⟩
      simpa using (List.mem_filter.mp (List.mem_eraseDups.mp member)).2
termination_by values.length
decreasing_by exact Nat.lt_succ_of_le (List.length_filter_le _ _)

/-- One value more is enough to make up for one that is taken out. -/
theorem take_filter_take (value : α) {values : List α} (nodup : values.Nodup) (count : Nat) :
    ((values.take (count + 1)).filter fun other => !(other == value)).take count =
      (values.filter fun other => !(other == value)).take count := by
  induction values generalizing count with
  | nil => rfl
  | cons first rest inductionHypothesis =>
      rcases List.nodup_cons.mp nodup with ⟨notAgain, nodupRest⟩
      rw [List.take_succ_cons]
      by_cases same : first = value
      · subst same
        have others : ∀ other ∈ rest, (!(other == first)) = true := by
          intro other member
          simpa using fun same : other = first => notAgain (same ▸ member)
        rw [List.filter_cons_of_neg (by simp), List.filter_cons_of_neg (by simp),
          List.filter_eq_self.mpr others,
          List.filter_eq_self.mpr fun other member => others other (List.mem_of_mem_take member),
          List.take_take, Nat.min_self]
      · rw [List.filter_cons_of_pos (by simpa using same), List.filter_cons_of_pos (by simpa using same)]
        cases count with
        | zero => rfl
        | succ count => rw [List.take_succ_cons, List.take_succ_cons, inductionHypothesis nodupRest]

/-- A value that is put in front of what was kept is in front of all that there was. -/
theorem take_cons_filter_take (value : α) {values : List α} (nodup : values.Nodup) (count : Nat) :
    (value :: (values.take count).filter fun other => !(other == value)).take count =
      (value :: values.filter fun other => !(other == value)).take count := by
  cases count with
  | zero => rfl
  | succ count => rw [List.take_succ_cons, List.take_succ_cons, take_filter_take value nodup]

end Recency

namespace Format

/-- Whether the format string of a key can be read in the mode of the key. -/
def Key.isReadable (key : Key) : Bool := (parse key.1 key.2).result.isOk

/-- The keys that calls have used, the one that was used last in front, and each of them once.  A call that
fails uses no key. -/
def recentKeys (calls : List Key) : List Key := (calls.filter Key.isReadable).reverse.eraseDups

theorem nodup_recentKeys (calls : List Key) : (recentKeys calls).Nodup := nodup_eraseDups _

theorem recentKeys_append_of_readable {call : Key} (readable : call.isReadable = true) (calls : List Key) :
    recentKeys (calls ++ [call]) =
      call :: (recentKeys calls).filter fun key => !(key == call) := by
  rw [recentKeys, List.filter_append, List.filter_cons_of_pos readable, List.filter_nil,
    List.reverse_append, List.reverse_singleton, List.singleton_append, List.eraseDups_cons,
    eraseDups_filter_ne]
  rfl

theorem recentKeys_append_of_not_readable {call : Key} (notReadable : call.isReadable = false)
    (calls : List Key) : recentKeys (calls ++ [call]) = recentKeys calls := by
  rw [recentKeys, List.filter_append, List.filter_cons_of_neg (by simp [notReadable]), List.filter_nil,
    List.append_nil]
  rfl

namespace Cache

variable {cache : Cache} {calls : List Key} {call : Key}

/-- The keys of the results that are kept. -/
def keys (cache : Cache) : List Key := cache.entries.map Prod.fst

theorem isSome_find?_iff (cache : Cache) (key : Key) : (cache.find? key).isSome = true ↔ key ∈ cache.keys := by
  rw [find?, List.lookup_isSome_iff, keys, List.mem_map]
  simp only [beq_iff_eq, @eq_comm _ key]

theorem keys_use (cache : Cache) (key : Key) (parsed : ParsedItems) :
    (cache.use key parsed).map Prod.fst =
      (key :: cache.keys.filter fun other => !(other == key)).take capacity := by
  rw [use, others, List.map_take, List.map_cons, keys, List.filter_map]
  rfl

/-- A memory after calls keeps what parsing yields, for the keys that were used last. -/
structure Recalls (calls : List Key) (cache : Cache) : Prop where
  sound : cache.IsSound
  keys : cache.keys = (recentKeys calls).take capacity

theorem recalls_empty : Recalls [] empty := ⟨isSound_empty, rfl⟩

theorem isReadable_of_result {items : List Item} (read : (Format.parse call.1 call.2).result = .ok items) :
    call.isReadable = true := by
  rw [Key.isReadable, read]
  rfl

/-- When a key is used, whether or not it was kept, it is put in front of the others. -/
theorem Recalls.keys_use (recalls : Recalls calls cache) (readable : call.isReadable = true)
    (parsed : ParsedItems) :
    (cache.use call parsed).map Prod.fst = (recentKeys (calls ++ [call])).take capacity := by
  rw [Cache.keys_use, recalls.keys, recentKeys_append_of_readable readable,
    take_cons_filter_take call (nodup_recentKeys calls)]

/-- A result that is found was yielded by parsing and leaves no notices. -/
theorem parse_of_found (call : Key) {parsed : ParsedItems} (found : cache.find? call = some parsed) :
    cache.parse call.1 call.2 = (Reading.pure parsed, ⟨cache.use call parsed, cache.nextSerial⟩) := by
  simp only [Cache.parse, found]

/-- Without a result to be found the format string is parsed, and a parse that fails is forgotten. -/
theorem parse_of_not_found (call : Key) (notFound : cache.find? call = none) :
    (cache.parse call.1 call.2).1 =
        (Format.parse call.1 call.2).map (ParsedItems.mk cache.nextSerial) ∧
      (∀ items, (Format.parse call.1 call.2).result = .ok items →
        (cache.parse call.1 call.2).2 = ⟨cache.use call ⟨cache.nextSerial, items⟩, cache.nextSerial + 1⟩) ∧
      ∀ malformation, (Format.parse call.1 call.2).result = .error malformation →
        (cache.parse call.1 call.2).2 = cache := by
  simp only [Cache.parse, notFound, Reading.result_map]
  cases (Format.parse call.1 call.2).result with
  | error malformation =>
      refine ⟨rfl, ?_, fun _ _ => rfl⟩
      intro items same
      cases same
  | ok items =>
      refine ⟨rfl, ?_, ?_⟩
      · intro others same
        cases same
        rfl
      · intro malformation same
        cases same

/-- A call takes a memory after calls to one after these calls and itself. -/
theorem Recalls.parse (recalls : Recalls calls cache) (call : Key) :
    Recalls (calls ++ [call]) (cache.parse call.1 call.2).2 := by
  refine ⟨recalls.sound.parse call.1 call.2, ?_⟩
  cases found : cache.find? call with
  | some parsed =>
      have readable := isReadable_of_result (recalls.sound.result_of_find? found)
      rw [parse_of_found call found]
      exact recalls.keys_use readable parsed
  | none =>
      rcases parse_of_not_found call found with ⟨_, succeeds, fails⟩
      cases result : (Format.parse call.1 call.2).result with
      | ok items =>
          rw [succeeds items result]
          exact recalls.keys_use (isReadable_of_result result) _
      | error malformation =>
          have notReadable : call.isReadable = false := by rw [Key.isReadable, result]; rfl
          rw [fails malformation result, recentKeys_append_of_not_readable notReadable]
          exact recalls.keys

/-- The memory after calls, in order. -/
def afterCalls (calls : List Key) : Cache :=
  calls.foldl (fun cache call => (cache.parse call.1 call.2).2) empty

theorem recalls_afterCalls (calls : List Key) : Recalls calls (afterCalls calls) := by
  induction calls using List.reverseRecOn with
  | nil => exact recalls_empty
  | append_singleton calls call inductionHypothesis =>
      rw [afterCalls, List.foldl_append]
      exact inductionHypothesis.parse call

/-- The memory is seen in nothing but the notices.  After any calls, a further one yields what it would yield
without a memory, and ends at the same malformed place if there is one.  It leaves the same notices, unless
its result is found, and then it leaves none.  The results that are found are those of the keys that were
used last, as many as there is room for.  A call that fails changes nothing. -/
theorem parse_afterCalls (calls : List Key) (mode : Mode) (format : Text) :
    let cache := afterCalls calls
    let plain := Format.parse mode format
    (∀ key, (cache.find? key).isSome = true ↔ key ∈ (recentKeys calls).take capacity) ∧
      (cache.parse mode format).1.result.map ParsedItems.items = plain.result ∧
      (cache.parse mode format).1.notices =
        (if (cache.find? (mode, format)).isSome then [] else plain.notices) ∧
      ∀ malformation, plain.result = .error malformation → (cache.parse mode format).2 = cache := by
  intro cache plain
  have recalls : Recalls calls cache := recalls_afterCalls calls
  refine ⟨fun key => ?_, recalls.sound.result_parse mode format, ?_, fun malformation fails => ?_⟩
  · rw [isSome_find?_iff, recalls.keys]
  · cases found : cache.find? (mode, format) with
    | some parsed =>
        rw [parse_of_found (mode, format) found]
        rfl
    | none =>
        rw [(parse_of_not_found (mode, format) found).1, Reading.notices_map]
        rfl
  · cases found : cache.find? (mode, format) with
    | some parsed => cases fails.symm.trans (recalls.sound.result_of_find? found)
    | none => exact (parse_of_not_found (mode, format) found).2.2 malformation fails

/-- A recovery is noted once, and a failure as often as it happens. -/
example : (recentKeys [(.recovering, ['}']), (.strict, ['}']), (.recovering, ['a']), (.recovering, ['}'])]) =
    [(.recovering, ['}']), (.recovering, ['a'])] := by cbv

end Cache
end Format
end FieldText

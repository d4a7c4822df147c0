import Passbook.Proofs.AccountNumber.Answers
import Passbook.Store.Services
import Mathlib.Data.List.Count

/-!
# Account numbers over a run

Every call for an account number uses up one sequence number of its product and type, whether
the number can be put together or not. The calls for one product and type therefore never get
the same number. Products and types count on their own, while a number shows only the series of
its product: calls of two of them get the same number whenever they share a series and are
equally many calls into their own count.
-/

namespace Passbook

namespace Sequences

variable {s : Sequences} {key other : SequenceKey}

/-- The last allocated number of a sequence, zero before the first. -/
def last (s : Sequences) (key : SequenceKey) : Nat := (s.current? key).getD 0

@[simp] theorem last_empty (key : SequenceKey) : ({} : Sequences).last key = 0 := rfl

/-- An increment is read back from its own sequence and leaves the others as they are. -/
theorem current?_increment (s : Sequences) (key other : SequenceKey) :
    (s.increment key).2.current? other =
      if key = other then some (s.last key + 1) else s.current? other := by
  by_cases h : key = other
  · subst h
    rw [if_pos rfl]
    exact current?_set_self s key _
  · rw [if_neg h]
    exact current?_set_of_ne s _ (Ne.symm h)

/-- An increment counts in its own sequence only. -/
theorem last_increment (s : Sequences) (key other : SequenceKey) :
    (s.increment key).2.last other = s.last other + if key = other then 1 else 0 := by
  rw [last, current?_increment]
  by_cases h : key = other
  · subst h
    rw [if_pos rfl, if_pos rfl, Option.getD_some]
  · rw [if_neg h, if_neg h]
    rfl

end Sequences

namespace Store

variable {store : Store} {institution : Option String} {keys : List SequenceKey}
  {key key' : SequenceKey} {i j : Nat} {number number' : String}

/-- The account number of a sequence number of a product. -/
def numberOf (store : Store) (institution : Option String) (key : SequenceKey) (n : Nat) :
    Except Error String :=
  Id.run (AccountNumber.synthesize institution (fun id => pure (store.series? id)) key.product n)

/-- The outcomes of calls for account numbers, in the order of the calls, and the store after
the last one. -/
def generateAll (store : Store) (institution : Option String) :
    List SequenceKey → List (Except Error String) × Store
  | [] => ([], store)
  | key :: rest =>
    let (call, next) := store.generate institution key
    let (others, final) := next.generateAll institution rest
    (call.1 :: others, final)

/-- A call uses up the next sequence number and asks for its account number. -/
theorem generate_outcome (store : Store) (institution : Option String) (key : SequenceKey) :
    (store.generate institution key).1.1 =
      store.numberOf institution key (store.sequences.last key + 1) := by
  rw [numberOf, AccountNumber.run_synthesize]
  exact AccountNumber.join_synthesize institution store.readSeries key.product _

/-- A call leaves everything but the sequences alone. -/
theorem generate_store (store : Store) (institution : Option String) (key : SequenceKey) :
    (store.generate institution key).2 =
      { store with sequences := (store.sequences.increment key).2 } := rfl

/-- The first call is done on the store, and the others on the store that it leaves. -/
theorem generateAll_cons (store : Store) (institution : Option String) (key : SequenceKey)
    (rest : List SequenceKey) :
    store.generateAll institution (key :: rest) =
      ((store.generate institution key).1.1 ::
        ((store.generate institution key).2.generateAll institution rest).1,
        ((store.generate institution key).2.generateAll institution rest).2) := rfl

/-- A call gets the number that follows from how many calls of its product and type came
before it. -/
theorem getElem?_generateAll (store : Store) (institution : Option String)
    (h : keys[i]? = some key) :
    (store.generateAll institution keys).1[i]? = some (store.numberOf institution key
      (store.sequences.last key + (keys.take i).count key + 1)) := by
  induction keys generalizing store i with
  | nil => simp at h
  | cons first rest ih =>
    rw [generateAll_cons]
    cases i with
    | zero =>
      obtain rfl := Option.some.inj h
      rw [generate_outcome]
      simp
    | succ i =>
      have hrest := ih (store.generate institution first).2 h
      rw [generate_store, Sequences.last_increment] at hrest
      have hcount : (store.sequences.last key + if first = key then 1 else 0) +
          (rest.take i).count key + 1 =
          store.sequences.last key + ((first :: rest).take (i + 1)).count key + 1 := by
        rw [List.take_succ_cons, List.count_cons]
        simp only [beq_iff_eq]
        omega
      rw [List.getElem?_cons_succ, generate_store, hrest]
      exact congrArg (fun n => some (store.numberOf institution key n)) hcount

/-- A later call of the same product and type comes after more of such calls. -/
theorem count_take_lt (hi : keys[i]? = some key) (hij : i < j) :
    (keys.take i).count key < (keys.take j).count key := by
  have hnext : (keys.take (i + 1)).count key = (keys.take i).count key + 1 := by
    rw [List.take_add_one, hi, Option.toList_some, List.count_append, List.count_singleton_self]
  have hmono : (keys.take (i + 1)).count key ≤ (keys.take j).count key :=
    (List.take_sublist_take_left hij).count_le key
  omega

/-- Two calls get the same account number exactly if their products share a series and equally
many calls of their own product and type came before them. -/
theorem generateAll_eq_iff (hempty : store.sequences = {}) (hi : keys[i]? = some key)
    (hj : keys[j]? = some key')
    (h : (store.generateAll institution keys).1[i]? = some (.ok number))
    (h' : (store.generateAll institution keys).1[j]? = some (.ok number')) :
    number = number' ↔ store.series? key.product = store.series? key'.product ∧
      (keys.take i).count key = (keys.take j).count key' := by
  rw [getElem?_generateAll store institution hi, hempty] at h
  rw [getElem?_generateAll store institution hj, hempty] at h'
  rw [AccountNumber.synthesize_eq_iff (Option.some.inj h) (Option.some.inj h')]
  simp only [Sequences.last_empty]
  exact and_congr_right fun _ => by omega

/-- No two calls of one product and type get the same account number. -/
theorem generateAll_ne (hempty : store.sequences = {}) (hi : keys[i]? = some key)
    (hj : keys[j]? = some key) (hij : i ≠ j)
    (h : (store.generateAll institution keys).1[i]? = some (.ok number))
    (h' : (store.generateAll institution keys).1[j]? = some (.ok number')) :
    number ≠ number' := by
  intro hsame
  have hcount := ((generateAll_eq_iff hempty hi hj h h').mp hsame).2
  rcases Nat.lt_or_gt_of_ne hij with hlt | hgt
  · exact absurd hcount (Nat.ne_of_lt (count_take_lt hi hlt))
  · exact absurd hcount (Nat.ne_of_gt (count_take_lt hj hgt))

/-- A product that is issued an account number has a series. -/
theorem series_of_getElem?_generateAll (hi : keys[i]? = some key)
    (h : (store.generateAll institution keys).1[i]? = some (.ok number)) :
    ∃ series, store.series? key.product = some series := by
  rw [getElem?_generateAll store institution hi] at h
  exact AccountNumber.series_of_synthesize (Option.some.inj h)

/-- Every call has an outcome. -/
theorem length_generateAll (store : Store) (institution : Option String)
    (keys : List SequenceKey) : (store.generateAll institution keys).1.length = keys.length := by
  induction keys generalizing store with
  | nil => rfl
  | cons first rest ih => rw [generateAll_cons, List.length_cons, ih, List.length_cons]

/-- Where no two products and types that are called share a series, no number is issued twice. -/
theorem generateAll_nodup (hempty : store.sequences = {})
    (hseries : ∀ key ∈ keys, ∀ key' ∈ keys, ∀ series, store.series? key.product = some series →
      store.series? key'.product = some series → key = key') :
    ((store.generateAll institution keys).1.filterMap Except.toOption).Nodup := by
  rw [List.Nodup, List.pairwise_filterMap, List.pairwise_iff_getElem]
  intro i j hi hj hij number hnumber number' hnumber' hsame
  have hki : i < keys.length := by rwa [length_generateAll] at hi
  have hkj : j < keys.length := by rwa [length_generateAll] at hj
  have hok : ∀ {k number} (hk : k < (store.generateAll institution keys).1.length),
      (store.generateAll institution keys).1[k].toOption = some number →
        (store.generateAll institution keys).1[k]? = some (.ok number) := by
    intro k number hk hnumber
    rw [List.getElem?_eq_getElem hk]
    cases hcall : (store.generateAll institution keys).1[k] with
    | error e => simp [hcall, Except.toOption] at hnumber
    | ok n =>
      rw [hcall] at hnumber
      rw [Option.some.inj hnumber]
  have h := hok hi hnumber
  have h' := hok hj hnumber'
  obtain ⟨series, hfound⟩ :=
    series_of_getElem?_generateAll (List.getElem?_eq_getElem hki) h
  have hshared := ((generateAll_eq_iff hempty (List.getElem?_eq_getElem hki)
    (List.getElem?_eq_getElem hkj) h h').mp hsame).1
  have hkey := hseries _ (List.getElem_mem hki) _ (List.getElem_mem hkj) series hfound
    (hshared ▸ hfound)
  refine generateAll_ne hempty (List.getElem?_eq_getElem hki) ?_ (Nat.ne_of_lt hij) h h' hsame
  rw [hkey, List.getElem?_eq_getElem hkj]

/-- No product is issued an account number twice under one type, and no number at all is issued
twice unless two products and types that were called share a series. -/
theorem generateAll_distinct (store : Store) (institution : Option String)
    (keys : List SequenceKey) (hempty : store.sequences = {}) :
    (∀ i j key key' number number', keys[i]? = some key → keys[j]? = some key' →
      (store.generateAll institution keys).1[i]? = some (.ok number) →
      (store.generateAll institution keys).1[j]? = some (.ok number') →
      (number = number' ↔ store.series? key.product = store.series? key'.product ∧
        (keys.take i).count key = (keys.take j).count key') ∧
      (i ≠ j → key = key' → number ≠ number')) ∧
    ((∀ key ∈ keys, ∀ key' ∈ keys, ∀ series, store.series? key.product = some series →
        store.series? key'.product = some series → key = key') →
      ((store.generateAll institution keys).1.filterMap Except.toOption).Nodup) := by
  refine ⟨?_, generateAll_nodup hempty⟩
  intro i j key key' number number' hi hj h h'
  refine ⟨generateAll_eq_iff hempty hi hj h h', ?_⟩
  rintro hij rfl
  exact generateAll_ne hempty hi hj hij h h'

/-- Two products with a series and one without, before any account is opened. -/
def threeProducts : Store :=
  { products := [⟨1, "A", some "02"⟩, ⟨2, "B", some "03"⟩, ⟨3, "C", none⟩] }

/-- Calls for all three products, the first one again at the end. -/
def fourCalls : List SequenceKey :=
  [⟨"SAVINGS", 1⟩, ⟨"SAVINGS", 2⟩, ⟨"SAVINGS", 3⟩, ⟨"SAVINGS", 1⟩]

/-- Three of the four calls get a number, and the numbers are distinct. -/
theorem fourCalls_distinct :
    threeProducts.sequences = {} ∧
      (threeProducts.generateAll (some "50547") fourCalls).1 =
        [.ok "0200000017", .ok "0300000010", .error (.accountSeriesMissing 3 none),
          .ok "0200000024"] ∧
      ((threeProducts.generateAll (some "50547") fourCalls).1.filterMap Except.toOption).Nodup := by
  refine ⟨rfl, rfl, ?_⟩
  refine (generateAll_distinct threeProducts (some "50547") fourCalls rfl).2 ?_
  intro key hkey key' hkey' series h h'
  have hshared : ∀ key ∈ fourCalls, ∀ key' ∈ fourCalls,
      threeProducts.series? key.product = threeProducts.series? key'.product →
        threeProducts.series? key.product ≠ none → key = key' := by decide
  exact hshared key hkey key' hkey' (h.trans h'.symm) (by rw [h]; exact Option.some_ne_none _)

/-- One product with a series, before any account is opened. -/
def oneProduct : Store := { products := [⟨1, "A", some "02"⟩] }

/-- A savings account and a fixed deposit of one product. -/
def bothTypes : List SequenceKey := [⟨"SAVINGS", 1⟩, ⟨"FIXED_DEPOSIT", 1⟩]

/-- The first accounts of two types of a product get the same number. -/
theorem bothTypes_same_number :
    oneProduct.sequences = {} ∧ AccountNumber.isDigits 5 "50547" = true ∧
      (∀ product ∈ oneProduct.products, ∃ series, product.series = some series ∧
        AccountNumber.isDigits 2 series = true) ∧
      (oneProduct.generateAll (some "50547") bothTypes).1 =
        [.ok "0200000017", .ok "0200000017"] ∧
      ¬((oneProduct.generateAll (some "50547") bothTypes).1.filterMap Except.toOption).Nodup := by
  have hrun : (oneProduct.generateAll (some "50547") bothTypes).1 =
      [.ok "0200000017", .ok "0200000017"] := rfl
  refine ⟨rfl, by decide, ?_, hrun, ?_⟩
  · intro product hproduct
    obtain rfl := List.mem_singleton.mp hproduct
    exact ⟨"02", rfl, by decide⟩
  · rw [hrun]
    decide

end Store

end Passbook

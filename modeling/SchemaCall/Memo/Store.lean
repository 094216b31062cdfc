import SchemaCall.Call.Arguments
import SchemaCall.Digest.Sha256
import SchemaCall.Json.Printer
import Std.Data.TreeMap.Lemmas

/-!
# Where calls are kept

The identity of a call is its operation and its arguments. The order of positional arguments counts;
the order of keyword arguments, and of object members inside any argument, does not. The key of a
call is the canonical text of the call, and the digest of that text (`CallKey.of`).

Answered calls are kept under the digests of their keys, in one of two ways. Without a bound they
stand in a map, and a list of the digests beside the map tells in which order they came. With a
bound they stand in a cache that has the call used last in front and drops the one at the end when
it is full (`Lru`). Either way the calls can be listed, the oldest first (`Store.records`).

A store says some things twice: the list has to name what is in the map, and every call has to be
kept under its own digest. `Store.Coherent` is this agreement; a new store has it
(`Store.coherent_empty`), and what is done with a store keeps it up (`Store.Coherent.touch`,
`Store.Coherent.insert`).
-/

namespace SchemaCall

/-! ## Keys -/

/-- The identity of a call: its canonical text, with the digest of the text. -/
structure CallKey where
  hash : String
  operation : String
  encoded : String
  deriving DecidableEq, Repr

namespace CallKey

/-- The canonical text of a call, as characters. -/
def encode (operation : String) (args : Arguments) : List Char :=
  operation.toList ++ "(args=".toList ++ (Json.array args.positional).canonical.write ++
    ",kwargs=".toList ++ (Json.object args.keyword.entries).canonical.write ++ [')']

/-- The key of a call. -/
def of (operation : String) (args : Arguments) : CallKey :=
  let encoded := String.ofList (encode operation args)
  ⟨Sha256.hex encoded, operation, encoded⟩

/-- A key in JSON. -/
def toJson (key : CallKey) : Json :=
  .object [("hash", .string key.hash), ("operation", .string key.operation),
    ("encoded", .string key.encoded)]

end CallKey

/-- A call that was answered, with its result. -/
structure CallRecord where
  key : CallKey
  result : Json
  deriving DecidableEq

/-! ## A cache with a bound -/

/-- Entries under different names, the one used last in front, and how many there may be. -/
structure Lru (α : Type) where
  capacity : Nat
  positive : 0 < capacity
  entries : List (String × α)

namespace Lru

variable {α : Type}

/-- The value under a name. Looking is not using. -/
def peek? (cache : Lru α) (name : String) : Option α :=
  Entries.get? cache.entries name

/-- The entries with other names. -/
def others (cache : Lru α) (name : String) : List (String × α) :=
  cache.entries.filter fun entry => entry.1 ≠ name

/-- Note that an entry was used. -/
def promote (cache : Lru α) (name : String) : Lru α :=
  match cache.peek? name with
  | none => cache
  | some value => { cache with entries := (name, value) :: cache.others name }

/-- Put a value under a name, as the entry used last. If the name is new and the cache is full, the
entry goes that was not used for the longest time. -/
def put (cache : Lru α) (name : String) (value : α) : Lru α :=
  match cache.peek? name with
  | some _ => { cache with entries := (name, value) :: cache.others name }
  | none =>
    let kept :=
      if cache.entries.length = cache.capacity then cache.entries.dropLast else cache.entries
    { cache with entries := (name, value) :: kept }

end Lru

/-! ## Stores -/

/-- How many results are kept. -/
inductive Capacity where
  | unbounded
  | atMost (count : Nat) (positive : 0 < count)
  deriving DecidableEq

/-- The capacity for so many results; zero stands for no bound. -/
def Capacity.ofNat (count : Nat) : Capacity :=
  if positive : 0 < count then .atMost count positive else .unbounded

/-- Answered calls under the digests of their keys. -/
inductive Store where
  | unbounded (calls : Std.TreeMap String CallRecord) (order : List String)
  | bounded (cache : Lru CallRecord)

namespace Store

/-- A store without calls. -/
def empty : Capacity → Store
  | .unbounded => .unbounded ∅ []
  | .atMost count positive => .bounded ⟨count, positive, []⟩

/-- How many calls there can be. -/
def capacity : Store → Capacity
  | .unbounded .. => .unbounded
  | .bounded cache => .atMost cache.capacity cache.positive

/-- The call under a digest. -/
def find? (hash : String) : Store → Option CallRecord
  | .unbounded calls _ => calls[hash]?
  | .bounded cache => cache.peek? hash

/-- Note that the call under a digest was used. -/
def touch (hash : String) : Store → Store
  | .unbounded calls order => .unbounded calls order
  | .bounded cache => .bounded (cache.promote hash)

/-- Keep a call, in the place of one with the same digest if there is any. -/
def insert (record : CallRecord) : Store → Store
  | .unbounded calls order =>
    .unbounded (calls.insert record.key.hash record)
      (if record.key.hash ∈ calls then order else order ++ [record.key.hash])
  | .bounded cache => .bounded (cache.put record.key.hash record)

/-- The calls, oldest first. A cache is read from its other end. -/
def records : Store → List CallRecord
  | .unbounded calls order => order.filterMap fun hash => calls[hash]?
  | .bounded cache => (cache.entries.map Prod.snd).reverse

/-- The number of calls. -/
def size : Store → Nat
  | .unbounded calls _ => calls.size
  | .bounded cache => cache.entries.length

/-- The parts of a store agree: the list beside the map names every digest of the map once, a cache
has room for what is in it, and every call is kept under its own digest. -/
inductive Coherent : Store → Prop where
  | unbounded {calls : Std.TreeMap String CallRecord} {order : List String}
      (nodup : order.Nodup) (mem_order : ∀ hash, hash ∈ order ↔ hash ∈ calls)
      (size_order : calls.size = order.length)
      (own : ∀ (hash : String) (record : CallRecord), calls[hash]? = some record →
        record.key.hash = hash) :
      Coherent (.unbounded calls order)
  | bounded {cache : Lru CallRecord} (distinct : Entries.Distinct cache.entries)
      (fits : cache.entries.length ≤ cache.capacity)
      (own : ∀ entry ∈ cache.entries, entry.2.key.hash = entry.1) : Coherent (.bounded cache)

/-- The parts of a new store agree. -/
theorem coherent_empty (capacity : Capacity) : (empty capacity).Coherent := by
  cases capacity with
  | unbounded => exact .unbounded List.nodup_nil (by simp) rfl (by simp)
  | atMost count positive => exact .bounded Entries.distinct_nil (Nat.zero_le count) (by simp)

end Store

namespace Lru

variable {α : Type} {cache : Lru α}

/-- An entry is put in front of those with other names. -/
theorem distinct_cons_others (distinct : Entries.Distinct cache.entries) (name : String)
    (value : α) : Entries.Distinct ((name, value) :: cache.others name) := by
  refine List.nodup_cons.mpr ⟨by simp [others], ?_⟩
  exact List.Nodup.sublist (List.filter_sublist.map Prod.fst) distinct

/-- Besides an entry that is there, there are fewer others than entries. -/
theorem length_others_lt {name : String} {value : α} (h : cache.peek? name = some value) :
    (cache.others name).length < cache.entries.length :=
  List.length_filter_lt_length_iff_exists.mpr ⟨_, Entries.mem_of_get? h, by simp⟩

end Lru

namespace Store.Coherent

/-- A call that is added to a map under its own digest leaves the others under theirs. -/
private theorem own_insert {calls : Std.TreeMap String CallRecord}
    (own : ∀ (hash : String) (record : CallRecord), calls[hash]? = some record →
      record.key.hash = hash) (record : CallRecord) (hash : String) (other : CallRecord)
    (h : (calls.insert record.key.hash record)[hash]? = some other) : other.key.hash = hash := by
  rw [Std.TreeMap.getElem?_insert] at h
  split at h
  · rename_i heq
    obtain rfl := Option.some.inj h
    exact Std.LawfulEqCmp.eq_of_compare heq
  · exact own hash other h

/-- In front of entries with other digests that leave room for it, there is a place for a call. -/
private theorem of_others {cache : Lru CallRecord} {record : CallRecord}
    {others : List (String × CallRecord)}
    (distinct : Entries.Distinct ((record.key.hash, record) :: others))
    (room : others.length < cache.capacity)
    (own : ∀ entry ∈ others, entry.2.key.hash = entry.1) :
    (Store.bounded { cache with entries := (record.key.hash, record) :: others }).Coherent := by
  refine .bounded distinct room ?_
  intro entry hentry
  rcases List.mem_cons.mp hentry with rfl | hothers
  · rfl
  · exact own entry hothers

/-- Using a call keeps a store coherent. -/
protected theorem touch {store : Store} (h : store.Coherent) (hash : String) :
    (store.touch hash).Coherent := by
  cases h with
  | unbounded nodup mem_order size_order own => exact .unbounded nodup mem_order size_order own
  | @bounded cache distinct fits own =>
    rw [Store.touch, Lru.promote]
    split
    · exact .bounded distinct fits own
    · rename_i record hpeek
      obtain rfl : record.key.hash = hash := own _ (Entries.mem_of_get? hpeek)
      refine of_others (Lru.distinct_cons_others distinct _ record) ?_ ?_
      · exact Nat.lt_of_lt_of_le (Lru.length_others_lt hpeek) fits
      · exact fun entry hentry => own entry (List.mem_filter.mp hentry).1

/-- Keeping another call keeps a store coherent. -/
protected theorem insert {store : Store} (h : store.Coherent) (record : CallRecord) :
    (store.insert record).Coherent := by
  cases h with
  | @unbounded calls order nodup mem_order size_order own =>
    rw [Store.insert]
    by_cases hmem : record.key.hash ∈ calls
    · rw [if_pos hmem]
      refine .unbounded nodup ?_ ?_ (own_insert own record)
      · intro hash
        rw [Std.TreeMap.mem_insert, mem_order, Std.LawfulEqCmp.compare_eq_iff_eq]
        exact ⟨.inr, fun h => h.elim (fun heq => heq ▸ hmem) id⟩
      · rw [Std.TreeMap.size_insert, if_pos (Std.TreeMap.contains_iff_mem.mpr hmem), size_order]
    · rw [if_neg hmem]
      refine .unbounded ?_ ?_ ?_ (own_insert own record)
      · refine List.nodup_append.mpr ⟨nodup, by simp, ?_⟩
        rintro hash hhash other hother rfl
        rw [List.mem_singleton.mp hother, mem_order] at hhash
        exact hmem hhash
      · intro hash
        rw [Std.TreeMap.mem_insert, List.mem_append, mem_order, Std.LawfulEqCmp.compare_eq_iff_eq,
          List.mem_singleton, or_comm, eq_comm]
      · rw [Std.TreeMap.size_insert, if_neg (mt Std.TreeMap.contains_iff_mem.mp hmem), size_order,
          List.length_append, List.length_singleton]
  | @bounded cache distinct fits own =>
    rw [Store.insert, Lru.put]
    split
    · rename_i old hpeek
      refine of_others (Lru.distinct_cons_others distinct _ record) ?_ ?_
      · exact Nat.lt_of_lt_of_le (Lru.length_others_lt hpeek) fits
      · exact fun entry hentry => own entry (List.mem_filter.mp hentry).1
    · rename_i hpeek
      have hkept {kept : List (String × CallRecord)} (hsublist : kept.Sublist cache.entries)
          (room : kept.length < cache.capacity) :
          (Store.bounded { cache with entries := (record.key.hash, record) :: kept }).Coherent := by
        refine of_others (List.nodup_cons.mpr ⟨fun hnames => ?_, ?_⟩) room ?_
        · exact Entries.get?_eq_none_iff.mp hpeek ((hsublist.map Prod.fst).subset hnames)
        · exact List.Nodup.sublist (hsublist.map Prod.fst) distinct
        · exact fun entry hentry => own entry (hsublist.subset hentry)
      dsimp only
      split
      · -- the entry that goes makes room for the new one
        have hpositive := cache.positive
        exact hkept (List.dropLast_sublist _) (by rw [List.length_dropLast]; omega)
      · exact hkept (List.Sublist.refl _) (by omega)

end Store.Coherent

end SchemaCall

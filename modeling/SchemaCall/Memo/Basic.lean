import SchemaCall.Call.Dispatch
import SchemaCall.Decimal
import SchemaCall.Memo.Store

/-!
# Memos and layers of memos

A memo remembers the results of calls: it has a store, and it counts how often the store was of use.
The counters are words of 64 bits.

Memos stand in front of something that answers calls. A call that the outermost one remembers is
answered from there, without being checked again; any other goes on to the memo behind it, and in
the end to what all of them stand in front of. On the way back every memo that was passed remembers
the result. Failures are not remembered.
-/

namespace SchemaCall

/-- Remembered calls, and how often they were of use. -/
structure Memo where
  store : Store
  coherent : store.Coherent
  hits : UInt64
  misses : UInt64

namespace Memo

/-- A memo of the given capacity that remembers nothing. -/
def empty (capacity : Capacity) : Memo := ⟨.empty capacity, Store.coherent_empty capacity, 0, 0⟩

/-- How many results are kept. -/
def capacity (memo : Memo) : Capacity := memo.store.capacity

/-- The remembered calls, oldest first. -/
def records (memo : Memo) : List CallRecord := memo.store.records

/-- The number of remembered calls. -/
def size (memo : Memo) : Nat := memo.store.size

/-- The record of the call whose key has the given digest. -/
def find? (memo : Memo) (hash : String) : Option CallRecord := memo.store.find? hash

/-- Note that a remembered call was used. -/
def touch (memo : Memo) (hash : String) : Memo :=
  { memo with store := memo.store.touch hash, coherent := memo.coherent.touch hash }

/-- Remember a call. -/
def insert (memo : Memo) (record : CallRecord) : Memo :=
  { memo with store := memo.store.insert record, coherent := memo.coherent.insert record }

/-- Count a call that was answered from memory. -/
def countHit (memo : Memo) : Memo := { memo with hits := memo.hits + 1 }

/-- Count a call that was not answered from memory. -/
def countMiss (memo : Memo) : Memo := { memo with misses := memo.misses + 1 }

/-- The share of calls that were answered from memory; zero if there were none. -/
def hitRatio (memo : Memo) : Decimal.Binary64 :=
  let total := memo.hits + memo.misses
  if total = 0 then .zero false
  else
    (do (← Decimal.Binary64.ofNat false memo.hits.toNat).div
          (← Decimal.Binary64.ofNat false total.toNat)).getD (.zero false)

end Memo

/-- Memos in front of something with a state of its own, the outermost first. -/
structure Layers (σ : Type) where
  memos : List Memo
  state : σ

namespace Layers

variable {σ : Type}

/-- Answer a call through memos, the outermost first. -/
def callThrough (inner : Caller σ) (operation : String) (args : Arguments) :
    List Memo → σ → Except CallError Json × List Memo × σ
  | [], state =>
    let (answer, state) := inner operation args state
    (answer, [], state)
  | memo :: behind, state =>
    let key := CallKey.of operation args
    match memo.find? key.hash with
    -- the memos behind are not asked, so they count nothing
    | some record => (.ok record.result, (memo.touch key.hash).countHit :: behind, state)
    | none =>
      match callThrough inner operation args behind state with
      | (.ok result, behind, state) =>
        (.ok result, memo.countMiss.insert ⟨key, result⟩ :: behind, state)
      | (.error error, behind, state) => (.error error, memo.countMiss :: behind, state)

/-- The caller that answers through the memos in front of another. -/
def call (inner : Caller σ) : Caller (Layers σ) :=
  fun operation args layers =>
    let (answer, memos, state) := callThrough inner operation args layers.memos layers.state
    (answer, ⟨memos, state⟩)

end Layers

end SchemaCall

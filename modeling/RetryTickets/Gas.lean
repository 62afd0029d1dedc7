-- What things cost. Prices are words of 64 bits; a price that does not fit
-- counts as one that nobody can pay.

namespace RetryTickets

/-- A charge that was not met: what it needed and what there was. -/
structure Shortfall where
  needed : UInt64
  available : UInt64
  deriving DecidableEq

namespace Gas

/-- The bytes of a storage word. -/
def wordSize : UInt64 := 32

/-- Writing one word of storage. -/
def storageWrite : UInt64 := 20000

/-- Reading one word of storage. -/
def storageRead : UInt64 := 50

/-- An update pays this part of a write. -/
def updateDiscount : UInt64 := 100

/-- Copying one byte of a returned word. -/
def copy : UInt64 := 3

/-- Encoding one word to return. -/
def returnEncoding : UInt64 := wordSize * copy

/-- Writing a log entry. -/
def log : UInt64 := 375

/-- Each topic of a log entry. -/
def logTopic : UInt64 := 375

/-- Each data byte of a log entry. -/
def logData : UInt64 := 8

/-- The largest price. -/
def limit : UInt64 := 18446744073709551615

/-- A product, if it fits. -/
def times? (a b : UInt64) : Option UInt64 :=
  if a.toNat * b.toNat ≤ limit.toNat then some (a * b) else none

/-- A sum, if it fits. -/
def plus? (a b : UInt64) : Option UInt64 :=
  if a.toNat + b.toNat ≤ limit.toNat then some (a + b) else none

/-- The words that hold `n` bytes. -/
def wordsForBytes (n : UInt64) : UInt64 := n / wordSize + if n % wordSize = 0 then 0 else 1

/-- What nobody can pay. -/
def unpayable : Shortfall := ⟨limit, 0⟩

/-- Keeping a record of `n` bytes for another lifetime: an update of each of its words. -/
def keepalive (n : UInt64) : Except Shortfall UInt64 :=
  match times? (wordsForBytes n) storageWrite with
  | some price => .ok (price / updateDiscount)
  | none => .error unpayable

/-- Reading a record of `n` bytes. -/
def redeemRead (n : UInt64) : Except Shortfall UInt64 :=
  match times? storageRead (wordsForBytes n) with
  | some price => .ok price
  | none => .error unpayable

/-- A log entry with so many topics and data bytes, at most the largest price. -/
def logEntry (topics dataBytes : UInt64) : UInt64 :=
  let ofTopics := (times? logTopic topics).getD limit
  let ofData := (times? logData dataBytes).getD limit
  (plus? ((plus? log ofTopics).getD limit) ofData).getD limit

end Gas

end RetryTickets

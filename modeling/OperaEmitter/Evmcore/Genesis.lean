import OperaEmitter.Foundation.GoInt

/-!
# The fake genesis block

`ApplyFakeGenesis` of the evmcore package sets the balance of every account of
a map, commits the state with `flush`, and builds the genesis block over the
committed root.  Go ranges over a map in an unspecified order that changes
from run to run, and every node of a fake network derives the genesis block on
its own, so the block must not depend on that order.

The state database is seen through what its committed root depends on: the
balance of each account it holds.  `statedb.Commit` and the trie database's
`Commit` and `Cap` are the storage below `flush`, given as a `Database` whose
calls may fail; the model holds for every such storage.
-/

namespace OperaEmitter.Evmcore

open OperaEmitter.Foundation (Timestamp)

/-- `common.Address`, twenty bytes. -/
abbrev Address := BitVec 160

/-- `common.Hash`, thirty-two bytes. -/
abbrev Hash := BitVec 256

/-- `types.EmptyRootHash`, the root of the empty trie. -/
def emptyRootHash : Hash := 0x56e81f171bcc55a6ff8345e692c0f86e5b48e01b996cadc001622fb5e363b421

def fakeGenesisTime : Timestamp := 1608600000 * 1000000000

/-- The `balances` argument: a Go map from accounts to `*big.Int`. -/
abbrev Balances := AList fun _ : Address => Int

/-- The accounts of a `state.StateDB`: the balance of each account it holds,
`none` for an account it does not hold. -/
@[ext] structure StateDB where
  balance : Address → Option Int

/-- `statedb.SetBalance`, which creates a missing account. -/
def StateDB.setBalance (statedb : StateDB) (acc : Address) (balance : Int) : StateDB :=
  ⟨Function.update statedb.balance acc (some balance)⟩

/-- The loop `for acc, balance := range balances`, visiting the map's entries
in `order`. -/
def setBalances (statedb : StateDB) (order : List (Σ _ : Address, Int)) : StateDB :=
  order.foldl (fun statedb e => statedb.setBalance e.1 e.2) statedb

/-- The storage `flush` writes to: `statedb.Commit(deleteEmptyObjects)`, and
`Commit(root, false, nil)` and `Cap(limit)` of `statedb.Database().TrieDB()`. -/
structure Database where
  commit : StateDB → Bool → Except String Hash
  trieCommit : Hash → Except String Unit
  cap : Nat → Except String Unit

def flush (db : Database) (statedb : StateDB) (clean : Bool) : Except String Hash := do
  let root ← db.commit statedb clean
  db.trieCommit root
  if !clean then db.cap 0
  return root

structure EvmHeader where
  number : Int
  time : Timestamp
  gasLimit : UInt64
  root : Hash
  txHash : Hash
  deriving DecidableEq, Repr

structure EvmBlock where
  evmHeader : EvmHeader
  deriving DecidableEq, Repr

def genesisBlock (time : Timestamp) (root : Hash) : EvmBlock :=
  ⟨⟨0, time, 0xFFFFFFFFFFFFFFFF, root, emptyRootHash⟩⟩

/-- `ApplyFakeGenesis`, where Go's range over `balances` visits `order`. -/
def applyFakeGenesis (db : Database) (statedb : StateDB) (time : Timestamp)
    (order : List (Σ _ : Address, Int)) : Except String EvmBlock := do
  let root ← flush db (setBalances statedb order) true
  return genesisBlock time root

/-- `MustApplyFakeGenesis`; `log.Crit` ends the process, which is `none`. -/
def mustApplyFakeGenesis (db : Database) (statedb : StateDB) (time : Timestamp)
    (order : List (Σ _ : Address, Int)) : Option EvmBlock :=
  match applyFakeGenesis db statedb time order with
  | .ok block => some block
  | .error _ => none

/-! ## What the loop is for -/

/-- The accounts once every account of `balances` holds its balance and every
other account is as it was. -/
def StateDB.withBalances (statedb : StateDB) (balances : Balances) : StateDB :=
  ⟨fun acc => (balances.lookup acc).or (statedb.balance acc)⟩

theorem setBalances_cons (statedb : StateDB) (acc : Address) (balance : Int)
    (order : List (Σ _ : Address, Int)) :
    setBalances statedb (⟨acc, balance⟩ :: order) =
      setBalances (statedb.setBalance acc balance) order := rfl

theorem setBalances_balance (statedb : StateDB) {order : List (Σ _ : Address, Int)}
    (hnd : order.NodupKeys) (acc : Address) :
    (setBalances statedb order).balance acc = (order.dlookup acc).or (statedb.balance acc) := by
  induction order generalizing statedb with
  | nil => rfl
  | cons e order ih =>
      obtain ⟨key, balance⟩ := e
      obtain ⟨hfresh, hnd⟩ := List.nodupKeys_cons.mp hnd
      rw [setBalances_cons, ih _ hnd]
      by_cases hacc : acc = key
      · subst hacc
        rw [List.dlookup_eq_none.mpr hfresh, List.dlookup_cons_eq]
        simp [StateDB.setBalance]
      · rw [List.dlookup_cons_ne _ _ hacc]
        simp [StateDB.setBalance, Function.update_noteq hacc]

/-- Ranging over the map in any order refines setting the map's balances. -/
theorem setBalances_eq_withBalances (statedb : StateDB) (balances : Balances)
    {order : List (Σ _ : Address, Int)} (horder : order.Perm balances.entries) :
    setBalances statedb order = statedb.withBalances balances := by
  have hnd : order.NodupKeys := (List.perm_nodupKeys horder).mpr balances.nodupKeys
  ext1
  funext acc
  rw [setBalances_balance statedb hnd, List.perm_dlookup acc hnd balances.nodupKeys horder]
  rfl

theorem flush_clean (db : Database) (statedb : StateDB) :
    flush db statedb true = (do
      let root ← db.commit statedb true
      db.trieCommit root
      return root) := by
  simp only [flush, Bool.not_true]
  rfl

/-! ## The genesis block -/

section Genesis

variable (db : Database) (statedb : StateDB) (time : Timestamp) (balances : Balances)

def twoAccounts : Balances := ⟨[⟨1, 100⟩, ⟨2, 200⟩], by simp [List.NodupKeys]⟩

theorem applyFakeGenesis_eq {order : List (Σ _ : Address, Int)}
    (horder : order.Perm balances.entries) :
    applyFakeGenesis db statedb time order = (do
      let root ← db.commit (statedb.withBalances balances) true
      db.trieCommit root
      return genesisBlock time root) := by
  rw [applyFakeGenesis, setBalances_eq_withBalances statedb balances horder, flush_clean]
  simp only [bind_assoc, pure_bind]

theorem applyFakeGenesis_eq_two_accounts :
    [(⟨2, 200⟩ : Σ _ : Address, Int), ⟨1, 100⟩].Perm twoAccounts.entries ∧
      applyFakeGenesis ⟨fun _ _ => .ok emptyRootHash, fun _ => .ok (), fun _ => .ok ()⟩
          ⟨fun _ => none⟩ fakeGenesisTime [⟨2, 200⟩, ⟨1, 100⟩] = (do
        let root ← Except.ok emptyRootHash
        (Except.ok () : Except String Unit)
        return genesisBlock fakeGenesisTime root) :=
  ⟨by decide, applyFakeGenesis_eq _ _ _ twoAccounts (by decide)⟩

end Genesis

end OperaEmitter.Evmcore

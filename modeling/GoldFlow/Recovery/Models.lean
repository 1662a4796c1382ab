import GoldFlow.Domain.Models

/-! # Records of the recovery ledger

A ledger record is a broker position or a broker order with its status in the ledger.
-/

namespace GoldFlow

inductive LedgerStatus where
  | opened | closed | pending | cancelled
  deriving DecidableEq, Repr

deriving instance DecidableEq for BrokerPosition

structure LedgerRecord (α : Type) where
  item : α
  status : LedgerStatus
  recovered : Bool := false
  updatedAt : Instant
  deriving DecidableEq

abbrev LedgerPosition := LedgerRecord BrokerPosition

abbrev LedgerOrder := LedgerRecord BrokerOrder

structure ReconciliationIncident where
  code : String
  ticket : String
  detail : String
  deriving DecidableEq, Repr

structure ReconciliationReport where
  healthy : Bool
  incidents : List ReconciliationIncident
  recoveredPositions : Nat := 0
  recoveredOrders : Nat := 0
  closedPositions : Nat := 0
  cancelledOrders : Nat := 0
  deriving DecidableEq, Repr

end GoldFlow

import Passbook.Decimal.Basic
import Passbook.Decimal.Rounding
import Passbook.Decimal.Arithmetic
import Passbook.Decimal.Order
import Passbook.Decimal.Quantize
import Passbook.Decimal.Printer
import Passbook.Decimal.Reader
import Passbook.Text.Quoted
import Passbook.Schedule.Edit
import Passbook.Payment
import Passbook.Request.SplitChange
import Passbook.Limit
import Passbook.AccountNumber
import Passbook.Settlement
import Passbook.Store.Services
import Passbook.Journal.Logger
import Passbook.Settings
import Passbook.Connection
import Passbook.Proofs.Decimal.Order
import Passbook.Proofs.Outcome
import Passbook.Proofs.Decimal.Representable
import Passbook.Proofs.Decimal.Sum
import Passbook.Proofs.Decimal.NearestWhole
import Passbook.Proofs.Decimal.Context
import Passbook.Proofs.Decimal.Operations
import Passbook.Proofs.Decimal.Nearest
import Passbook.Proofs.Money
import Passbook.Proofs.Split.Totals
import Passbook.Proofs.Split.TakeBack
import Passbook.Proofs.Split.Distribution
import Passbook.Proofs.Settlement
import Passbook.Proofs.Settlement.Numbers
import Passbook.Proofs.Tax.OneRate
import Passbook.Proofs.Split.WithinFee
import Passbook.Proofs.Store.Numbers
import Passbook.Proofs.Schedule.Bounds
import Passbook.Proofs.Schedule.Coverage
import Passbook.Proofs.Schedule.Report
import Passbook.Proofs.AccountNumber.Answers
import Passbook.Proofs.Decimal.Extended
import Passbook.Proofs.Limit
import Passbook.Proofs.Store.Allocation
import Passbook.Proofs.Store.DepositCheck
import Passbook.Proofs.Schedule.Ordered
import Passbook.Proofs.Request
import Passbook.Proofs.Schedule.Edits
import Passbook.Proofs.Decimal.AtMost
import Passbook.Proofs.Schedule.Rising
import Passbook.Proofs.Settlement.Rising
import Passbook.Proofs.Settlement.Posting
import Passbook.Proofs.Money.Percentage
import Passbook.Proofs.Money.Total
import Passbook.Proofs.Settlement.Failures
import Passbook.Proofs.Journal.Operations
import Passbook.Proofs.Journal.Tally
import Passbook.Proofs.Request.Sound
import Passbook.Proofs.Schedule.Gaps
import Passbook.Proofs.Limit.Enforced
import Passbook.Proofs.Split.Tail
import Passbook.Proofs.Split.Report
import Passbook.Proofs.Split.Fewer
import Passbook.Proofs.Decimal.Follows
import Passbook.Proofs.Split.Entitlement
import Passbook.Proofs.Decimal.Reordered
import Passbook.Proofs.Tax.Drift
import Passbook.Proofs.Limit.Exact
import Passbook.Proofs.Limit.Monotone
import Passbook.Proofs.AccountNumber.Detection
import Passbook.Proofs.Schedule.Repricing
import Passbook.Proofs.Request.FieldNames
import Passbook.Proofs.Schedule.Comparable
import Passbook.Proofs.Request.Partial
import Passbook.Proofs.Schedule.Incremental
import Passbook.Proofs.Schedule.Authoring
import Passbook.Proofs.Money.MinorUnit
import Passbook.Proofs.Money.Ordered
import Passbook.Proofs.Decimal.Written
import Passbook.Proofs.Decimal.Readable
import Passbook.Proofs.Payment.Message

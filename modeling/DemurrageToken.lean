import DemurrageToken.Properties.AllowanceLedger
import DemurrageToken.Properties.Capacity
import DemurrageToken.Properties.Compounding
import DemurrageToken.Properties.Conservation
import DemurrageToken.Properties.Custody
import DemurrageToken.Properties.DecayPrecision
import DemurrageToken.Properties.Delegation
import DemurrageToken.Properties.DemurrageSchedule
import DemurrageToken.Properties.Distribution
import DemurrageToken.Properties.Expiry
import DemurrageToken.Properties.Exposure
import DemurrageToken.Properties.HookDelivery
import DemurrageToken.Properties.InitialAccounts
import DemurrageToken.Properties.Instantiation
import DemurrageToken.Properties.Modifier
import DemurrageToken.Properties.OrderIndependence
import DemurrageToken.Properties.Pagination
import DemurrageToken.Properties.PeriodClock
import DemurrageToken.Properties.Policy
import DemurrageToken.Properties.Receipts
import DemurrageToken.Properties.Reentrancy
import DemurrageToken.Properties.Registration
import DemurrageToken.Properties.ReplyData
import DemurrageToken.Properties.SinkPayment
import DemurrageToken.Properties.Supply
import DemurrageToken.Properties.Transactions
import DemurrageToken.Library.Holdings
import DemurrageToken.Contract.Queries
import DemurrageToken.Properties.Bookkeeping
import DemurrageToken.Properties.RateLimit
import DemurrageToken.Properties.Reports

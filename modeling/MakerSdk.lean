import MakerSdk.Amounts.Premium
import MakerSdk.Auth.Grammar
import MakerSdk.Chain.Confirmation
import MakerSdk.Chain.Wrap
import MakerSdk.Crank.Pass
import MakerSdk.Crank.Requests
import MakerSdk.Fleet.Freshness
import MakerSdk.Holdings.Funding
import MakerSdk.Http.Cache
import MakerSdk.Paging.Requests
import MakerSdk.Quote.Nonce
import MakerSdk.Quote.Outcome
import MakerSdk.Routing.Curator
import MakerSdk.Routing.Plan
import MakerSdk.Sale.Delivery
import MakerSdk.Served.Open
import MakerSdk.Served.SwapRoute
import MakerSdk.Session.Answered
import MakerSdk.Session.Backoff
import MakerSdk.Session.Correlation
import MakerSdk.Session.Guarded
import MakerSdk.Session.Inbound
import MakerSdk.Session.Keepalive
import MakerSdk.Session.Lanes
import MakerSdk.Session.Lifecycle
import MakerSdk.Session.Recovery
import MakerSdk.Session.Resume
import MakerSdk.Session.Strikes
import MakerSdk.Session.Target
import MakerSdk.Settle.Payout
import MakerSdk.Vault.Owner

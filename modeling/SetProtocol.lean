import SetProtocol.Foundation.Outcome
import SetProtocol.Foundation.SwapRemove
import SetProtocol.Foundation.Ledger
import SetProtocol.Foundation.Trace
import SetProtocol.Foundation.Buffer
import SetProtocol.Foundation.BigEndian
import SetProtocol.Foundation.Abi
import SetProtocol.Foundation.Rates
import SetProtocol.Foundation.Registry
import SetProtocol.Foundation.Backing
import SetProtocol.Foundation.Bank
import SetProtocol.Foundation.Bill
import SetProtocol.Foundation.Compounding
import SetProtocol.Foundation.Rounding
import SetProtocol.Foundation.Quotients
import SetProtocol.Foundation.Teardown
import SetProtocol.Foundation.Shares
import SetProtocol.Foundation.Obligations
import SetProtocol.Foundation.Cooldown
import SetProtocol.Lib.SafeMath
import SetProtocol.Lib.PreciseUnitMath
import SetProtocol.Lib.PreciseUnitRounding
import SetProtocol.Lib.UnitConversionUtils
import SetProtocol.Lib.AddressArrayUtils
import SetProtocol.Lib.BytesLib
import SetProtocol.Lib.Memory
import SetProtocol.Core.ERC20
import SetProtocol.Core.Controller
import SetProtocol.Core.ControllerRegistry
import SetProtocol.Core.PriceOracle
import SetProtocol.Core.SetToken
import SetProtocol.Core.SetTokenLemmas
import SetProtocol.Core.PositionListing
import SetProtocol.Core.UnitRoundTrip
import SetProtocol.Core.ModuleRegistry
import SetProtocol.Core.ShareLedger
import SetProtocol.Core.Position
import SetProtocol.Core.SetTokenCreator
import SetProtocol.Core.PositionTracking
import SetProtocol.Core.World
import SetProtocol.Core.ModuleBase
import SetProtocol.Core.Accounts
import SetProtocol.Core.PositionEdits
import SetProtocol.Core.ModulePositions
import SetProtocol.Core.DefaultTracking
import SetProtocol.Core.Swap
import SetProtocol.Core.Reconciling
import SetProtocol.Modules.BasicIssuanceModule
import SetProtocol.Modules.TradeModule
import SetProtocol.Modules.GeneralIndexModule
import SetProtocol.Modules.StreamingFeeModule
import SetProtocol.Modules.PositionUnitAdjusterModule
import SetProtocol.Modules.SetValuer
import SetProtocol.Modules.CustomOracleNAVIssuanceModule
import SetProtocol.Modules.DebtIssuanceModule
import SetProtocol.Modules.LeverageModule
import SetProtocol.Modules.AaveLeverageModule
import SetProtocol.Modules.CompoundLeverageModule
import SetProtocol.Modules.PerpV2LeverageModuleV2
import SetProtocol.Modules.PerpV2BasisTradingModule
import SetProtocol.Modules.StakingModule
import SetProtocol.Modules.ClaimModule
import SetProtocol.Modules.AmmModule
import SetProtocol.Modules.AirdropModule
import SetProtocol.Modules.IssuanceHooks
import SetProtocol.Modules.GovernanceModule
import SetProtocol.Modules.WrapModule
import SetProtocol.Modules.NotionalTradeModule
import SetProtocol.Modules.SingleIndexModule
import SetProtocol.Integration.UniswapV3ExchangeAdapterV2
import SetProtocol.Integration.UniswapV3Path
import SetProtocol.Integration.ZeroExApiAdapter
import SetProtocol.Integration.ZeroExApiV2Adapter
import SetProtocol.Integration.UniswapV2AmmAdapter
import SetProtocol.Product.APYRescue
import SetProtocol.Product.ExchangeIssuanceZeroEx
import SetProtocol.Product.AMMSplitter
import SetProtocol.Integration.UniswapV2Exchange
import SetProtocol.Product.AMMSplitterTrades
import SetProtocol.System.Collateralization
import SetProtocol.System.Rescaling
import SetProtocol.System.Accruals
import SetProtocol.System.RoundTrip
import SetProtocol.System.RedeemValidation
import SetProtocol.System.Protocol
import SetProtocol.System.DebtIssuanceModuleV2
import SetProtocol.System.IssuanceFees
import SetProtocol.System.SharedCollateral
import SetProtocol.System.StakingLedger
import SetProtocol.System.PerpPositions
import SetProtocol.System.PerpIssuance
import SetProtocol.System.HookRegistry
import SetProtocol.System.DebtReplication
import SetProtocol.System.IssuanceBills
import SetProtocol.System.ExchangeIssuance
import SetProtocol.System.OffChainEstimates
import SetProtocol.System.FundingTracking
import SetProtocol.System.PerpPositionList
import SetProtocol.System.RebalanceTargets
import SetProtocol.System.RebalanceHistory
import SetProtocol.System.RebalanceTrades
import SetProtocol.System.CompoundMarkets
import SetProtocol.System.IssuanceRegistry
import SetProtocol.System.ClaimRegistry
import SetProtocol.System.RescuePayouts
import SetProtocol.System.ModuleRemoval
import SetProtocol.System.FeeDeadline
import SetProtocol.System.LeverageSync
import SetProtocol.System.AirdropAbsorption
import SetProtocol.System.VaultOperations
import SetProtocol.System.VaultRuns
import SetProtocol.System.Redemptions
import SetProtocol.System.MaturedPositions
import SetProtocol.System.SingleIndexRebalance
import SetProtocol.System.SingleIndexHistory
import SetProtocol.System.CoolOff
import SetProtocol.System.OraclePrices
import SetProtocol.System.SlippageLimits
import SetProtocol.System.SplitTrades
import SetProtocol.System.PairReserves

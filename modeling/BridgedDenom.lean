import BridgedDenom.Fault.OfValues
import BridgedDenom.Main
import BridgedDenom.Package
import BridgedDenom.Proofs.Address.Checksum
import BridgedDenom.Proofs.Address.Renderings
import BridgedDenom.Proofs.CommandLine.Failures
import BridgedDenom.Proofs.Denomination.Message
import BridgedDenom.Proofs.Log.JsonRecord
import BridgedDenom.Proofs.Settings.Formats
import BridgedDenom.Proofs.Settings.Saving
import BridgedDenom.Proofs.Token.Record
import BridgedDenom.Proofs.Fault.Context
import BridgedDenom.Proofs.Fault.Record
import BridgedDenom.Proofs.Denomination.Notes
import BridgedDenom.Proofs.Log.Rejection
import BridgedDenom.Proofs.Address.Origin
import BridgedDenom.Proofs.Fault.Chain
import BridgedDenom.Proofs.Log.TextRecord

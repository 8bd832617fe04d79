import OperaEmitter.Foundation.GoInt
import OperaEmitter.Foundation.Validators
import OperaEmitter.Emission.Metric
import OperaEmitter.Emission.Quorum
import OperaEmitter.Emission.Control
import OperaEmitter.Emission.Rules
import OperaEmitter.Verifier.Listener
import OperaEmitter.Verifier.Delivery
import OperaEmitter.Verifier.Shutdown
import OperaEmitter.Evmcore.Genesis

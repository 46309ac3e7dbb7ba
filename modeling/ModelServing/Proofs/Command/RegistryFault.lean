import ModelServing.Command.Execution
import ModelServing.Proofs.Console.Heading
import ModelServing.Proofs.Registry.DocumentShape
import ModelServing.Proofs.Registry.Reload

/-! Which registry files the commands tell about when they cannot load them. -/

namespace ModelServing.Command

open ModelServing.Console

end ModelServing.Command

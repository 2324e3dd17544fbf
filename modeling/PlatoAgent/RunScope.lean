import PlatoAgent.HttpMutations
import PlatoAgent.RunEventStream

/-!
# The profile that a run belongs to

The gateway admits a request for a run by the first event of its stream.  While
the runtime holds the run this is the oldest event that the buffer of the run
still has, so the owner of a run is refused unless that is the start of the run.
-/

namespace PlatoAgent

section Gateway

variable (control : ControlDaemon) (principal : HttpGatewayPrincipal)
  (workspaceId : String)

end Gateway

section Gateway

variable {control : ControlDaemon} {principal : HttpGatewayPrincipal}
variable {workspaceId profileId : String}

end Gateway

section Admitted

variable {state admitted : RuntimeState} {runId sessionId : String}
variable {turn : Option ThreadTurnBinding} {approval : Option ApprovalProfile}

end Admitted

end PlatoAgent

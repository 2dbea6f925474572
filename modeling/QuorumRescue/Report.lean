/-
  The report to the operator.

  A report shows the members that the log had, and those of the registry where they differ; then the
  survivor and the registry's new text, as it would be or as it is.  After a collapse it ends with
  what is left to do by hand.
-/
import QuorumRescue.Recovery

namespace QuorumRescue.Report

/-- The unit that runs the agent with a tag. -/
def serviceName (tag : String) : String := "controller-agent-" ++ tag ++ ".service"

/-- A list of members under a title. -/
def listing (title : String) (members : List Member) : String :=
  title ++ ":\n" ++ String.join (members.map fun m => "  - " ++ m.toText ++ "\n") ++ "\n"

/-- The members that the log and the registry had. -/
def views (outcome : Outcome) : String :=
  listing "consensus log membership" outcome.previous
    ++ match outcome.registry with
      | some registered =>
          if outcome.diverged then listing "node registry membership (diverged)" registered else ""
      | none => ""

/-- The registry's text for the members that are left. -/
def clusterText (outcome : Outcome) : String := String.ofList (Registry.clusterText outcome.members)

/-- What was done, or would be. -/
def conclusion (outcome : Outcome) (tag : String) : String :=
  match outcome.action with
  | .alreadySingle member =>
      "cluster already has a single member (" ++ member.address ++ "); nothing to do\n"
  | .collapse survivor =>
      "surviving node: " ++ survivor.toText ++ "\n\n"
        ++ if outcome.applied then
          "updated cluster.yaml\n\n" ++ clusterText outcome ++ "\n"
            ++ "backstop action complete\n"
            ++ "please restart the controller machine agents using:\n\n"
            ++ "\tsystemctl restart " ++ serviceName tag ++ "\n\n"
        else "dry run: cluster.yaml would become\n\n" ++ clusterText outcome

/-- The report on an outcome, for the operator of the agent with a tag. -/
def render (outcome : Outcome) (tag : String) : String := views outcome ++ conclusion outcome tag

end QuorumRescue.Report

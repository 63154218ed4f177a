import NodeTopology.Entries
import NodeTopology.Instance
/-!
Labels of cluster nodes and the seven labels that say where a node's machine is.  The seven are laid
over what a node carries already: their values win, every other label stays as it is.
-/

namespace NodeTopology

abbrev Labels := Entries String

namespace LabelKey

/-- Read by consumers that predate the instance label. -/
def workerId : String := "ibm-cloud.kubernetes.io/worker-id"
def instanceId : String := "ibm-cloud.kubernetes.io/vpc-instance-id"
def failureRegion : String := "failure-domain.beta.kubernetes.io/region"
def failureZone : String := "failure-domain.beta.kubernetes.io/zone"
def topologyRegion : String := "topology.kubernetes.io/region"
def topologyZone : String := "topology.kubernetes.io/zone"
/-- Marks nodes that have been labelled. -/
def marker : String := "vpc-block-csi-driver-labels"

end LabelKey

namespace Labels

/-- Whether a node needs no labelling.  Older releases wrote only the instance label, so the marker
must be there too. -/
def areComplete (labels : Labels) : Bool :=
  labels.has LabelKey.marker && labels.has LabelKey.instanceId

/-- Labels as log lines show them. -/
def text (labels : Labels) : String :=
  "\x7b" ++ ", ".intercalate (labels.map fun entry =>
    Text.quoted entry.1 ++ ": " ++ Text.quoted entry.2) ++ "\x7d"

end Labels

def Placement.labels (placement : Placement) : Labels :=
  [(LabelKey.workerId, placement.instanceId),
    (LabelKey.instanceId, placement.instanceId),
    (LabelKey.failureRegion, placement.region),
    (LabelKey.failureZone, placement.zone),
    (LabelKey.topologyRegion, placement.region),
    (LabelKey.topologyZone, placement.zone),
    (LabelKey.marker, "true")]

end NodeTopology

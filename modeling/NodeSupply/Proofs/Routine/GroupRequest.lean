import NodeSupply.Proofs.Provider.Memory
import NodeSupply.Routine.Lifecycle

/-!
# What is stamped on a new group

A group that is asked for carries the labels of its request, with the mark of this library over
them, and its nodes carry them with the labels of their shape over them.

## Main statements

* `NodeGroupRequest.isManagedIn_group_spec` : the group is known as one that was made here.
* `NodeGroupRequest.get?_nodeLabels` : the labels of its nodes.
-/

namespace NodeSupply.NodeGroupRequest

/-- A group made from a request carries the mark of this library, whatever labels were asked for. -/
theorem isManagedIn_group_spec (r : NodeGroupRequest) (home : String) (id : NodeGroupId) :
    ((r.spec home).group id).isManagedIn home = true := by
  have hlabel : (r.spec home).labels.get? managedLabel = some managedValue :=
    SortedMap.get?_insert_self ..
  change isManaged home home (r.spec home).labels = true
  simp [isManaged, hlabel]

/-- The labels of a node are those of its shape, and for the rest those that were asked for. -/
theorem get?_nodeLabels (r : NodeGroupRequest) (home key : String) :
    (r.spec home).nodeLabels.get? key =
      ((shapeLabels r.shape).get? key).or (r.labels.get? key) := SortedMap.get?_extend ..

end NodeSupply.NodeGroupRequest

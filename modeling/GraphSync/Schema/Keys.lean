/-!
# Reserved names

Property keys and parameters with a meaning of their own.
-/

namespace GraphSync

/-! ## Property keys -/

/-- The key that identifies a node among those of its label. -/
def idKey : String := "id"

/-- The key that holds the run by which an element was last written. -/
def lastUpdatedKey : String := "lastupdated"

/-- The key that holds the time at which an element was created. -/
def firstSeenKey : String := "firstseen"

/-- The scope marker of matchlinks that names the label of the owning sub-resource. -/
def scopeLabelKey : String := "_sub_resource_label"

/-- The scope marker of matchlinks that identifies the owning sub-resource. -/
def scopeIdKey : String := "_sub_resource_id"

/-! ## Parameters -/

/-- The parameter that carries a batch of input rows. -/
def rowsParam : String := "DictList"

/-- The parameter that carries the current run in cleanup statements. -/
def updateTagParam : String := "UPDATE_TAG"

/-- The parameter that bounds how many elements one cleanup statement deletes. -/
def limitParam : String := "LIMIT_SIZE"

/-- The column in which a cleanup statement returns how many elements it deleted. -/
def deletedColumn : String := "TotalCompleted"

end GraphSync

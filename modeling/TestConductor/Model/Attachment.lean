import TestConductor.Json.Shape
/-! # Attachments

Files or resources produced by a run, grouped by the data collector or test host that
produced them.
-/
namespace TestConductor

/-- One file or resource produced by a run. -/
structure Attachment where
  uri : String
  description : String
  deriving DecidableEq, Repr, Inhabited

/-- The attachments of one data collector or test host. -/
structure AttachmentSet where
  uri : String
  displayName : String
  attachments : List Attachment
  deriving DecidableEq, Repr, Inhabited

namespace Attachment

def toJson (a : Attachment) : Json := .obj [("uri", .str a.uri), ("description", .str a.description)]

def shape : Json.Shape :=
  .record "UriDataAttachment"
    [Json.Shape.field "uri" .string, Json.Shape.defField "description" .string (.str "")]

def ofJson (j : Json) : Attachment :=
  ⟨((j.get? "uri").bind Json.asStr?).getD "", ((j.get? "description").bind Json.asStr?).getD ""⟩

end Attachment

namespace AttachmentSet

def new (uri displayName : String) : AttachmentSet := ⟨uri, displayName, []⟩

def withAttachment (s : AttachmentSet) (uri description : String) : AttachmentSet :=
  { s with attachments := s.attachments ++ [⟨uri, description⟩] }

def toJson (s : AttachmentSet) : Json :=
  .obj [("uri", .str s.uri), ("display_name", .str s.displayName),
    ("attachments", .arr (s.attachments.map Attachment.toJson))]

def shape : Json.Shape :=
  .record "AttachmentSet"
    [Json.Shape.field "uri" .string, Json.Shape.field "display_name" .string,
     Json.Shape.defField "attachments" (.list Attachment.shape) (.arr [])]

def ofJson (j : Json) : AttachmentSet :=
  ⟨((j.get? "uri").bind Json.asStr?).getD "", ((j.get? "display_name").bind Json.asStr?).getD "",
    (((j.get? "attachments").bind Json.asArr?).getD []).map Attachment.ofJson⟩

end AttachmentSet

end TestConductor

import DevTools.Schema

namespace DevTools.Domain.Accessibility

def types : List Declaration :=
  [ .wrapper "AXNodeId" .text,
    .enumeration "AXValueType"
      [ ("BOOLEAN", "boolean"), ("TRISTATE", "tristate"),
        ("BOOLEAN_OR_UNDEFINED", "booleanOrUndefined"), ("IDREF", "idref"),
        ("IDREF_LIST", "idrefList"), ("INTEGER", "integer"), ("NODE", "node"),
        ("NODE_LIST", "nodeList"), ("NUMBER", "number"), ("STRING", "string"),
        ("COMPUTED_STRING", "computedString"), ("TOKEN", "token"), ("TOKEN_LIST", "tokenList"),
        ("DOM_RELATION", "domRelation"), ("ROLE", "role"), ("INTERNAL_ROLE", "internalRole"),
        ("VALUE_UNDEFINED", "valueUndefined") ],
    .enumeration "AXValueSourceType"
      [ ("ATTRIBUTE", "attribute"), ("IMPLICIT", "implicit"), ("STYLE", "style"),
        ("CONTENTS", "contents"), ("PLACEHOLDER", "placeholder"),
        ("RELATED_ELEMENT", "relatedElement") ],
    .enumeration "AXValueNativeSourceType"
      [ ("DESCRIPTION", "description"), ("FIGCAPTION", "figcaption"), ("LABEL", "label"),
        ("LABELFOR", "labelfor"), ("LABELWRAPPED", "labelwrapped"), ("LEGEND", "legend"),
        ("RUBYANNOTATION", "rubyannotation"), ("TABLECAPTION", "tablecaption"),
        ("TITLE", "title"), ("OTHER", "other") ],
    .record "AXValueSource"
      [ .required "type_" "type" (.one (.ref "accessibility" "AXValueSourceType")),
        .optional "value" "value" (.one (.ref "accessibility" "AXValue")),
        .optional "attribute" "attribute" (.one .text),
        .optional "attribute_value" "attributeValue" (.one (.ref "accessibility" "AXValue")),
        .optional "superseded" "superseded" (.one .boolean),
        .optional "native_source" "nativeSource"
          (.one (.ref "accessibility" "AXValueNativeSourceType")),
        .optional "native_source_value" "nativeSourceValue"
          (.one (.ref "accessibility" "AXValue")),
        .optional "invalid" "invalid" (.one .boolean),
        .optional "invalid_reason" "invalidReason" (.one .text) ],
    .record "AXRelatedNode"
      [ .required "backend_dom_node_id" "backendDOMNodeId" (.one (.ref "dom" "BackendNodeId")),
        .optional "idref" "idref" (.one .text),
        .optional "text" "text" (.one .text) ],
    .record "AXProperty"
      [ .required "name" "name" (.one (.ref "accessibility" "AXPropertyName")),
        .required "value" "value" (.one (.ref "accessibility" "AXValue")) ],
    .record "AXValue"
      [ .required "type_" "type" (.one (.ref "accessibility" "AXValueType")),
        .optional "value" "value" (.one .any),
        .optional "related_nodes" "relatedNodes" (.many (.ref "accessibility" "AXRelatedNode")),
        .optional "sources" "sources" (.many (.ref "accessibility" "AXValueSource")) ],
    .enumeration "AXPropertyName"
      [ ("BUSY", "busy"), ("DISABLED", "disabled"), ("EDITABLE", "editable"),
        ("FOCUSABLE", "focusable"), ("FOCUSED", "focused"), ("HIDDEN", "hidden"),
        ("HIDDEN_ROOT", "hiddenRoot"), ("INVALID", "invalid"), ("KEYSHORTCUTS", "keyshortcuts"),
        ("SETTABLE", "settable"), ("ROLEDESCRIPTION", "roledescription"), ("LIVE", "live"),
        ("ATOMIC", "atomic"), ("RELEVANT", "relevant"), ("ROOT", "root"),
        ("AUTOCOMPLETE", "autocomplete"), ("HAS_POPUP", "hasPopup"), ("LEVEL", "level"),
        ("MULTISELECTABLE", "multiselectable"), ("ORIENTATION", "orientation"),
        ("MULTILINE", "multiline"), ("READONLY", "readonly"), ("REQUIRED", "required"),
        ("VALUEMIN", "valuemin"), ("VALUEMAX", "valuemax"), ("VALUETEXT", "valuetext"),
        ("CHECKED", "checked"), ("EXPANDED", "expanded"), ("MODAL", "modal"),
        ("PRESSED", "pressed"), ("SELECTED", "selected"),
        ("ACTIVEDESCENDANT", "activedescendant"), ("CONTROLS", "controls"),
        ("DESCRIBEDBY", "describedby"), ("DETAILS", "details"), ("ERRORMESSAGE", "errormessage"),
        ("FLOWTO", "flowto"), ("LABELLEDBY", "labelledby"), ("OWNS", "owns") ],
    .record "AXNode"
      [ .required "node_id" "nodeId" (.one (.ref "accessibility" "AXNodeId")),
        .required "ignored" "ignored" (.one .boolean),
        .optional "ignored_reasons" "ignoredReasons"
          (.many (.ref "accessibility" "AXProperty")),
        .optional "role" "role" (.one (.ref "accessibility" "AXValue")),
        .optional "name" "name" (.one (.ref "accessibility" "AXValue")),
        .optional "description" "description" (.one (.ref "accessibility" "AXValue")),
        .optional "value" "value" (.one (.ref "accessibility" "AXValue")),
        .optional "properties" "properties" (.many (.ref "accessibility" "AXProperty")),
        .optional "parent_id" "parentId" (.one (.ref "accessibility" "AXNodeId")),
        .optional "child_ids" "childIds" (.many (.ref "accessibility" "AXNodeId")),
        .optional "backend_dom_node_id" "backendDOMNodeId" (.one (.ref "dom" "BackendNodeId")),
        .optional "frame_id" "frameId" (.one (.ref "page" "FrameId")) ] ]

def commands : List Command :=
  [ { name := "disable", method := "Accessibility.disable",
      parameters := [],
      returns := [] },
    { name := "enable", method := "Accessibility.enable",
      parameters := [],
      returns := [] },
    { name := "get_partial_ax_tree", method := "Accessibility.getPartialAXTree",
      parameters :=
        [ .optional "node_id" "nodeId" (.one (.ref "dom" "NodeId")),
          .optional "backend_node_id" "backendNodeId" (.one (.ref "dom" "BackendNodeId")),
          .optional "object_id" "objectId" (.one (.ref "runtime" "RemoteObjectId")),
          .optional "fetch_relatives" "fetchRelatives" (.one .boolean) ],
      returns :=
        [ .required "nodes" (.many (.ref "accessibility" "AXNode")) ] },
    { name := "get_full_ax_tree", method := "Accessibility.getFullAXTree",
      parameters :=
        [ .optional "depth" "depth" (.one .integer),
          .optional "max_depth" "max_depth" (.one .integer),
          .optional "frame_id" "frameId" (.one (.ref "page" "FrameId")) ],
      returns :=
        [ .required "nodes" (.many (.ref "accessibility" "AXNode")) ] },
    { name := "get_root_ax_node", method := "Accessibility.getRootAXNode",
      parameters :=
        [ .optional "frame_id" "frameId" (.one (.ref "page" "FrameId")) ],
      returns :=
        [ .required "node" (.one (.ref "accessibility" "AXNode")) ] },
    { name := "get_ax_node_and_ancestors", method := "Accessibility.getAXNodeAndAncestors",
      parameters :=
        [ .optional "node_id" "nodeId" (.one (.ref "dom" "NodeId")),
          .optional "backend_node_id" "backendNodeId" (.one (.ref "dom" "BackendNodeId")),
          .optional "object_id" "objectId" (.one (.ref "runtime" "RemoteObjectId")) ],
      returns :=
        [ .required "nodes" (.many (.ref "accessibility" "AXNode")) ] },
    { name := "get_child_ax_nodes", method := "Accessibility.getChildAXNodes",
      parameters :=
        [ .required "id_" "id" (.one (.ref "accessibility" "AXNodeId")),
          .optional "frame_id" "frameId" (.one (.ref "page" "FrameId")) ],
      returns :=
        [ .required "nodes" (.many (.ref "accessibility" "AXNode")) ] },
    { name := "query_ax_tree", method := "Accessibility.queryAXTree",
      parameters :=
        [ .optional "node_id" "nodeId" (.one (.ref "dom" "NodeId")),
          .optional "backend_node_id" "backendNodeId" (.one (.ref "dom" "BackendNodeId")),
          .optional "object_id" "objectId" (.one (.ref "runtime" "RemoteObjectId")),
          .optional "accessible_name" "accessibleName" (.one .text),
          .optional "role" "role" (.one .text) ],
      returns :=
        [ .required "nodes" (.many (.ref "accessibility" "AXNode")) ] } ]

def events : List Event :=
  [ { name := "LoadComplete", method := "Accessibility.loadComplete",
      fields :=
        [ .required "root" "root" (.one (.ref "accessibility" "AXNode")) ] },
    { name := "NodesUpdated", method := "Accessibility.nodesUpdated",
      fields :=
        [ .required "nodes" "nodes" (.many (.ref "accessibility" "AXNode")) ] } ]

def domain : DevTools.Domain where
  name := "Accessibility"
  scope := "accessibility"
  types := types
  commands := commands
  events := events

end DevTools.Domain.Accessibility

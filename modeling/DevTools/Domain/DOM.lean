import DevTools.Schema

namespace DevTools.Domain.DOM

def types : List Declaration :=
  [ .wrapper "NodeId" .integer,
    .wrapper "BackendNodeId" .integer,
    .record "BackendNode"
      [ .required "node_type" "nodeType" (.one .integer),
        .required "node_name" "nodeName" (.one .text),
        .required "backend_node_id" "backendNodeId" (.one (.ref "dom" "BackendNodeId")) ],
    .enumeration "PseudoType"
      [ ("FIRST_LINE", "first-line"), ("FIRST_LETTER", "first-letter"), ("BEFORE", "before"),
        ("AFTER", "after"), ("MARKER", "marker"), ("BACKDROP", "backdrop"),
        ("SELECTION", "selection"), ("TARGET_TEXT", "target-text"),
        ("SPELLING_ERROR", "spelling-error"), ("GRAMMAR_ERROR", "grammar-error"),
        ("HIGHLIGHT", "highlight"), ("FIRST_LINE_INHERITED", "first-line-inherited"),
        ("SCROLLBAR", "scrollbar"), ("SCROLLBAR_THUMB", "scrollbar-thumb"),
        ("SCROLLBAR_BUTTON", "scrollbar-button"), ("SCROLLBAR_TRACK", "scrollbar-track"),
        ("SCROLLBAR_TRACK_PIECE", "scrollbar-track-piece"),
        ("SCROLLBAR_CORNER", "scrollbar-corner"), ("RESIZER", "resizer"),
        ("INPUT_LIST_BUTTON", "input-list-button"), ("TRANSITION", "transition"),
        ("TRANSITION_CONTAINER", "transition-container"),
        ("TRANSITION_OLD_CONTENT", "transition-old-content"),
        ("TRANSITION_NEW_CONTENT", "transition-new-content") ],
    .enumeration "ShadowRootType"
      [ ("USER_AGENT", "user-agent"), ("OPEN_", "open"), ("CLOSED", "closed") ],
    .enumeration "CompatibilityMode"
      [ ("QUIRKS_MODE", "QuirksMode"), ("LIMITED_QUIRKS_MODE", "LimitedQuirksMode"),
        ("NO_QUIRKS_MODE", "NoQuirksMode") ],
    .record "Node"
      [ .required "node_id" "nodeId" (.one (.ref "dom" "NodeId")),
        .required "backend_node_id" "backendNodeId" (.one (.ref "dom" "BackendNodeId")),
        .required "node_type" "nodeType" (.one .integer),
        .required "node_name" "nodeName" (.one .text),
        .required "local_name" "localName" (.one .text),
        .required "node_value" "nodeValue" (.one .text),
        .optional "parent_id" "parentId" (.one (.ref "dom" "NodeId")),
        .optional "child_node_count" "childNodeCount" (.one .integer),
        .optional "children" "children" (.many (.ref "dom" "Node")),
        .optional "attributes" "attributes" (.many .text),
        .optional "document_url" "documentURL" (.one .text),
        .optional "base_url" "baseURL" (.one .text),
        .optional "public_id" "publicId" (.one .text),
        .optional "system_id" "systemId" (.one .text),
        .optional "internal_subset" "internalSubset" (.one .text),
        .optional "xml_version" "xmlVersion" (.one .text),
        .optional "name" "name" (.one .text),
        .optional "value" "value" (.one .text),
        .optional "pseudo_type" "pseudoType" (.one (.ref "dom" "PseudoType")),
        .optional "shadow_root_type" "shadowRootType" (.one (.ref "dom" "ShadowRootType")),
        .optional "frame_id" "frameId" (.one (.ref "page" "FrameId")),
        .optional "content_document" "contentDocument" (.one (.ref "dom" "Node")),
        .optional "shadow_roots" "shadowRoots" (.many (.ref "dom" "Node")),
        .optional "template_content" "templateContent" (.one (.ref "dom" "Node")),
        .optional "pseudo_elements" "pseudoElements" (.many (.ref "dom" "Node")),
        .optional "imported_document" "importedDocument" (.one (.ref "dom" "Node")),
        .optional "distributed_nodes" "distributedNodes" (.many (.ref "dom" "BackendNode")),
        .optional "is_svg" "isSVG" (.one .boolean),
        .optional "compatibility_mode" "compatibilityMode"
          (.one (.ref "dom" "CompatibilityMode")) ],
    .record "RGBA"
      [ .required "r" "r" (.one .integer),
        .required "g" "g" (.one .integer),
        .required "b" "b" (.one .integer),
        .optional "a" "a" (.one .number) ],
    .wrapper "Quad" .list,
    .record "BoxModel"
      [ .required "content" "content" (.one (.ref "dom" "Quad")),
        .required "padding" "padding" (.one (.ref "dom" "Quad")),
        .required "border" "border" (.one (.ref "dom" "Quad")),
        .required "margin" "margin" (.one (.ref "dom" "Quad")),
        .required "width" "width" (.one .integer),
        .required "height" "height" (.one .integer),
        .optional "shape_outside" "shapeOutside" (.one (.ref "dom" "ShapeOutsideInfo")) ],
    .record "ShapeOutsideInfo"
      [ .required "bounds" "bounds" (.one (.ref "dom" "Quad")),
        .required "shape" "shape" (.many .any),
        .required "margin_shape" "marginShape" (.many .any) ],
    .record "Rect"
      [ .required "x" "x" (.one .number),
        .required "y" "y" (.one .number),
        .required "width" "width" (.one .number),
        .required "height" "height" (.one .number) ],
    .record "CSSComputedStyleProperty"
      [ .required "name" "name" (.one .text),
        .required "value" "value" (.one .text) ] ]

def commands : List Command :=
  [ { name := "collect_class_names_from_subtree", method := "DOM.collectClassNamesFromSubtree",
      parameters :=
        [ .required "node_id" "nodeId" (.one (.ref "dom" "NodeId")) ],
      returns :=
        [ .required "classNames" (.many .text) ] },
    { name := "copy_to", method := "DOM.copyTo",
      parameters :=
        [ .required "node_id" "nodeId" (.one (.ref "dom" "NodeId")),
          .required "target_node_id" "targetNodeId" (.one (.ref "dom" "NodeId")),
          .optional "insert_before_node_id" "insertBeforeNodeId" (.one (.ref "dom" "NodeId")) ],
      returns :=
        [ .required "nodeId" (.one (.ref "dom" "NodeId")) ] },
    { name := "describe_node", method := "DOM.describeNode",
      parameters :=
        [ .optional "node_id" "nodeId" (.one (.ref "dom" "NodeId")),
          .optional "backend_node_id" "backendNodeId" (.one (.ref "dom" "BackendNodeId")),
          .optional "object_id" "objectId" (.one (.ref "runtime" "RemoteObjectId")),
          .optional "depth" "depth" (.one .integer),
          .optional "pierce" "pierce" (.one .boolean) ],
      returns :=
        [ .required "node" (.one (.ref "dom" "Node")) ] },
    { name := "scroll_into_view_if_needed", method := "DOM.scrollIntoViewIfNeeded",
      parameters :=
        [ .optional "node_id" "nodeId" (.one (.ref "dom" "NodeId")),
          .optional "backend_node_id" "backendNodeId" (.one (.ref "dom" "BackendNodeId")),
          .optional "object_id" "objectId" (.one (.ref "runtime" "RemoteObjectId")),
          .optional "rect" "rect" (.one (.ref "dom" "Rect")) ],
      returns := [] },
    { name := "disable", method := "DOM.disable",
      parameters := [],
      returns := [] },
    { name := "discard_search_results", method := "DOM.discardSearchResults",
      parameters :=
        [ .required "search_id" "searchId" (.one .text) ],
      returns := [] },
    { name := "enable", method := "DOM.enable",
      parameters := [],
      returns := [] },
    { name := "focus", method := "DOM.focus",
      parameters :=
        [ .optional "node_id" "nodeId" (.one (.ref "dom" "NodeId")),
          .optional "backend_node_id" "backendNodeId" (.one (.ref "dom" "BackendNodeId")),
          .optional "object_id" "objectId" (.one (.ref "runtime" "RemoteObjectId")) ],
      returns := [] },
    { name := "get_attributes", method := "DOM.getAttributes",
      parameters :=
        [ .required "node_id" "nodeId" (.one (.ref "dom" "NodeId")) ],
      returns :=
        [ .required "attributes" (.many .text) ] },
    { name := "get_box_model", method := "DOM.getBoxModel",
      parameters :=
        [ .optional "node_id" "nodeId" (.one (.ref "dom" "NodeId")),
          .optional "backend_node_id" "backendNodeId" (.one (.ref "dom" "BackendNodeId")),
          .optional "object_id" "objectId" (.one (.ref "runtime" "RemoteObjectId")) ],
      returns :=
        [ .required "model" (.one (.ref "dom" "BoxModel")) ] },
    { name := "get_content_quads", method := "DOM.getContentQuads",
      parameters :=
        [ .optional "node_id" "nodeId" (.one (.ref "dom" "NodeId")),
          .optional "backend_node_id" "backendNodeId" (.one (.ref "dom" "BackendNodeId")),
          .optional "object_id" "objectId" (.one (.ref "runtime" "RemoteObjectId")) ],
      returns :=
        [ .required "quads" (.many (.ref "dom" "Quad")) ] },
    { name := "get_document", method := "DOM.getDocument",
      parameters :=
        [ .optional "depth" "depth" (.one .integer),
          .optional "pierce" "pierce" (.one .boolean) ],
      returns :=
        [ .required "root" (.one (.ref "dom" "Node")) ] },
    { name := "get_flattened_document",
      method := "DOM.getFlattenedDocument", deprecated := true,
      parameters :=
        [ .optional "depth" "depth" (.one .integer),
          .optional "pierce" "pierce" (.one .boolean) ],
      returns :=
        [ .required "nodes" (.many (.ref "dom" "Node")) ] },
    { name := "get_nodes_for_subtree_by_style", method := "DOM.getNodesForSubtreeByStyle",
      parameters :=
        [ .required "node_id" "nodeId" (.one (.ref "dom" "NodeId")),
          .required "computed_styles" "computedStyles"
            (.many (.ref "dom" "CSSComputedStyleProperty")),
          .optional "pierce" "pierce" (.one .boolean) ],
      returns :=
        [ .required "nodeIds" (.many (.ref "dom" "NodeId")) ] },
    { name := "get_node_for_location", method := "DOM.getNodeForLocation",
      parameters :=
        [ .required "x" "x" (.one .integer),
          .required "y" "y" (.one .integer),
          .optional "include_user_agent_shadow_dom" "includeUserAgentShadowDOM" (.one .boolean),
          .optional "ignore_pointer_events_none" "ignorePointerEventsNone" (.one .boolean) ],
      returns :=
        [ .required "backendNodeId" (.one (.ref "dom" "BackendNodeId")),
          .required "frameId" (.one (.ref "page" "FrameId")),
          .optional "nodeId" (.one (.ref "dom" "NodeId")) ] },
    { name := "get_outer_html", method := "DOM.getOuterHTML",
      parameters :=
        [ .optional "node_id" "nodeId" (.one (.ref "dom" "NodeId")),
          .optional "backend_node_id" "backendNodeId" (.one (.ref "dom" "BackendNodeId")),
          .optional "object_id" "objectId" (.one (.ref "runtime" "RemoteObjectId")) ],
      returns :=
        [ .required "outerHTML" (.one .text) ] },
    { name := "get_relayout_boundary", method := "DOM.getRelayoutBoundary",
      parameters :=
        [ .required "node_id" "nodeId" (.one (.ref "dom" "NodeId")) ],
      returns :=
        [ .required "nodeId" (.one (.ref "dom" "NodeId")) ] },
    { name := "get_search_results", method := "DOM.getSearchResults",
      parameters :=
        [ .required "search_id" "searchId" (.one .text),
          .required "from_index" "fromIndex" (.one .integer),
          .required "to_index" "toIndex" (.one .integer) ],
      returns :=
        [ .required "nodeIds" (.many (.ref "dom" "NodeId")) ] },
    { name := "hide_highlight", method := "DOM.hideHighlight",
      parameters := [],
      returns := [] },
    { name := "highlight_node", method := "DOM.highlightNode",
      parameters := [],
      returns := [] },
    { name := "highlight_rect", method := "DOM.highlightRect",
      parameters := [],
      returns := [] },
    { name := "mark_undoable_state", method := "DOM.markUndoableState",
      parameters := [],
      returns := [] },
    { name := "move_to", method := "DOM.moveTo",
      parameters :=
        [ .required "node_id" "nodeId" (.one (.ref "dom" "NodeId")),
          .required "target_node_id" "targetNodeId" (.one (.ref "dom" "NodeId")),
          .optional "insert_before_node_id" "insertBeforeNodeId" (.one (.ref "dom" "NodeId")) ],
      returns :=
        [ .required "nodeId" (.one (.ref "dom" "NodeId")) ] },
    { name := "perform_search", method := "DOM.performSearch",
      parameters :=
        [ .required "query" "query" (.one .text),
          .optional "include_user_agent_shadow_dom" "includeUserAgentShadowDOM" (.one .boolean) ],
      returns :=
        [ .required "searchId" (.one .text),
          .required "resultCount" (.one .integer) ] },
    { name := "push_node_by_path_to_frontend", method := "DOM.pushNodeByPathToFrontend",
      parameters :=
        [ .required "path" "path" (.one .text) ],
      returns :=
        [ .required "nodeId" (.one (.ref "dom" "NodeId")) ] },
    { name := "push_nodes_by_backend_ids_to_frontend",
      method := "DOM.pushNodesByBackendIdsToFrontend",
      parameters :=
        [ .required "backend_node_ids" "backendNodeIds" (.many (.ref "dom" "BackendNodeId")) ],
      returns :=
        [ .required "nodeIds" (.many (.ref "dom" "NodeId")) ] },
    { name := "query_selector", method := "DOM.querySelector",
      parameters :=
        [ .required "node_id" "nodeId" (.one (.ref "dom" "NodeId")),
          .required "selector" "selector" (.one .text) ],
      returns :=
        [ .required "nodeId" (.one (.ref "dom" "NodeId")) ] },
    { name := "query_selector_all", method := "DOM.querySelectorAll",
      parameters :=
        [ .required "node_id" "nodeId" (.one (.ref "dom" "NodeId")),
          .required "selector" "selector" (.one .text) ],
      returns :=
        [ .required "nodeIds" (.many (.ref "dom" "NodeId")) ] },
    { name := "redo", method := "DOM.redo",
      parameters := [],
      returns := [] },
    { name := "remove_attribute", method := "DOM.removeAttribute",
      parameters :=
        [ .required "node_id" "nodeId" (.one (.ref "dom" "NodeId")),
          .required "name" "name" (.one .text) ],
      returns := [] },
    { name := "remove_node", method := "DOM.removeNode",
      parameters :=
        [ .required "node_id" "nodeId" (.one (.ref "dom" "NodeId")) ],
      returns := [] },
    { name := "request_child_nodes", method := "DOM.requestChildNodes",
      parameters :=
        [ .required "node_id" "nodeId" (.one (.ref "dom" "NodeId")),
          .optional "depth" "depth" (.one .integer),
          .optional "pierce" "pierce" (.one .boolean) ],
      returns := [] },
    { name := "request_node", method := "DOM.requestNode",
      parameters :=
        [ .required "object_id" "objectId" (.one (.ref "runtime" "RemoteObjectId")) ],
      returns :=
        [ .required "nodeId" (.one (.ref "dom" "NodeId")) ] },
    { name := "resolve_node", method := "DOM.resolveNode",
      parameters :=
        [ .optional "node_id" "nodeId" (.one (.ref "dom" "NodeId")),
          .optional "backend_node_id" "backendNodeId" (.one (.ref "dom" "BackendNodeId")),
          .optional "object_group" "objectGroup" (.one .text),
          .optional "execution_context_id" "executionContextId"
            (.one (.ref "runtime" "ExecutionContextId")) ],
      returns :=
        [ .required "object" (.one (.ref "runtime" "RemoteObject")) ] },
    { name := "set_attribute_value", method := "DOM.setAttributeValue",
      parameters :=
        [ .required "node_id" "nodeId" (.one (.ref "dom" "NodeId")),
          .required "name" "name" (.one .text),
          .required "value" "value" (.one .text) ],
      returns := [] },
    { name := "set_attributes_as_text", method := "DOM.setAttributesAsText",
      parameters :=
        [ .required "node_id" "nodeId" (.one (.ref "dom" "NodeId")),
          .required "text" "text" (.one .text),
          .optional "name" "name" (.one .text) ],
      returns := [] },
    { name := "set_file_input_files", method := "DOM.setFileInputFiles",
      parameters :=
        [ .required "files" "files" (.many .text),
          .optional "node_id" "nodeId" (.one (.ref "dom" "NodeId")),
          .optional "backend_node_id" "backendNodeId" (.one (.ref "dom" "BackendNodeId")),
          .optional "object_id" "objectId" (.one (.ref "runtime" "RemoteObjectId")) ],
      returns := [] },
    { name := "set_node_stack_traces_enabled", method := "DOM.setNodeStackTracesEnabled",
      parameters :=
        [ .required "enable" "enable" (.one .boolean) ],
      returns := [] },
    { name := "get_node_stack_traces", method := "DOM.getNodeStackTraces",
      parameters :=
        [ .required "node_id" "nodeId" (.one (.ref "dom" "NodeId")) ],
      returns :=
        [ .optional "creation" (.one (.ref "runtime" "StackTrace")) ] },
    { name := "get_file_info", method := "DOM.getFileInfo",
      parameters :=
        [ .required "object_id" "objectId" (.one (.ref "runtime" "RemoteObjectId")) ],
      returns :=
        [ .required "path" (.one .text) ] },
    { name := "set_inspected_node", method := "DOM.setInspectedNode",
      parameters :=
        [ .required "node_id" "nodeId" (.one (.ref "dom" "NodeId")) ],
      returns := [] },
    { name := "set_node_name", method := "DOM.setNodeName",
      parameters :=
        [ .required "node_id" "nodeId" (.one (.ref "dom" "NodeId")),
          .required "name" "name" (.one .text) ],
      returns :=
        [ .required "nodeId" (.one (.ref "dom" "NodeId")) ] },
    { name := "set_node_value", method := "DOM.setNodeValue",
      parameters :=
        [ .required "node_id" "nodeId" (.one (.ref "dom" "NodeId")),
          .required "value" "value" (.one .text) ],
      returns := [] },
    { name := "set_outer_html", method := "DOM.setOuterHTML",
      parameters :=
        [ .required "node_id" "nodeId" (.one (.ref "dom" "NodeId")),
          .required "outer_html" "outerHTML" (.one .text) ],
      returns := [] },
    { name := "undo", method := "DOM.undo",
      parameters := [],
      returns := [] },
    { name := "get_frame_owner", method := "DOM.getFrameOwner",
      parameters :=
        [ .required "frame_id" "frameId" (.one (.ref "page" "FrameId")) ],
      returns :=
        [ .required "backendNodeId" (.one (.ref "dom" "BackendNodeId")),
          .optional "nodeId" (.one (.ref "dom" "NodeId")) ] },
    { name := "get_container_for_node", method := "DOM.getContainerForNode",
      parameters :=
        [ .required "node_id" "nodeId" (.one (.ref "dom" "NodeId")),
          .optional "container_name" "containerName" (.one .text) ],
      returns :=
        [ .optional "nodeId" (.one (.ref "dom" "NodeId")) ] },
    { name := "get_querying_descendants_for_container",
      method := "DOM.getQueryingDescendantsForContainer",
      parameters :=
        [ .required "node_id" "nodeId" (.one (.ref "dom" "NodeId")) ],
      returns :=
        [ .required "nodeIds" (.many (.ref "dom" "NodeId")) ] } ]

def events : List Event :=
  [ { name := "AttributeModified", method := "DOM.attributeModified",
      fields :=
        [ .required "node_id" "nodeId" (.one (.ref "dom" "NodeId")),
          .required "name" "name" (.one .text),
          .required "value" "value" (.one .text) ] },
    { name := "AttributeRemoved", method := "DOM.attributeRemoved",
      fields :=
        [ .required "node_id" "nodeId" (.one (.ref "dom" "NodeId")),
          .required "name" "name" (.one .text) ] },
    { name := "CharacterDataModified", method := "DOM.characterDataModified",
      fields :=
        [ .required "node_id" "nodeId" (.one (.ref "dom" "NodeId")),
          .required "character_data" "characterData" (.one .text) ] },
    { name := "ChildNodeCountUpdated", method := "DOM.childNodeCountUpdated",
      fields :=
        [ .required "node_id" "nodeId" (.one (.ref "dom" "NodeId")),
          .required "child_node_count" "childNodeCount" (.one .integer) ] },
    { name := "ChildNodeInserted", method := "DOM.childNodeInserted",
      fields :=
        [ .required "parent_node_id" "parentNodeId" (.one (.ref "dom" "NodeId")),
          .required "previous_node_id" "previousNodeId" (.one (.ref "dom" "NodeId")),
          .required "node" "node" (.one (.ref "dom" "Node")) ] },
    { name := "ChildNodeRemoved", method := "DOM.childNodeRemoved",
      fields :=
        [ .required "parent_node_id" "parentNodeId" (.one (.ref "dom" "NodeId")),
          .required "node_id" "nodeId" (.one (.ref "dom" "NodeId")) ] },
    { name := "DistributedNodesUpdated", method := "DOM.distributedNodesUpdated",
      fields :=
        [ .required "insertion_point_id" "insertionPointId" (.one (.ref "dom" "NodeId")),
          .required "distributed_nodes" "distributedNodes" (.many (.ref "dom" "BackendNode")) ] },
    { name := "DocumentUpdated", method := "DOM.documentUpdated",
      fields := [] },
    { name := "InlineStyleInvalidated", method := "DOM.inlineStyleInvalidated",
      fields :=
        [ .required "node_ids" "nodeIds" (.many (.ref "dom" "NodeId")) ] },
    { name := "PseudoElementAdded", method := "DOM.pseudoElementAdded",
      fields :=
        [ .required "parent_id" "parentId" (.one (.ref "dom" "NodeId")),
          .required "pseudo_element" "pseudoElement" (.one (.ref "dom" "Node")) ] },
    { name := "PseudoElementRemoved", method := "DOM.pseudoElementRemoved",
      fields :=
        [ .required "parent_id" "parentId" (.one (.ref "dom" "NodeId")),
          .required "pseudo_element_id" "pseudoElementId" (.one (.ref "dom" "NodeId")) ] },
    { name := "SetChildNodes", method := "DOM.setChildNodes",
      fields :=
        [ .required "parent_id" "parentId" (.one (.ref "dom" "NodeId")),
          .required "nodes" "nodes" (.many (.ref "dom" "Node")) ] },
    { name := "ShadowRootPopped", method := "DOM.shadowRootPopped",
      fields :=
        [ .required "host_id" "hostId" (.one (.ref "dom" "NodeId")),
          .required "root_id" "rootId" (.one (.ref "dom" "NodeId")) ] },
    { name := "ShadowRootPushed", method := "DOM.shadowRootPushed",
      fields :=
        [ .required "host_id" "hostId" (.one (.ref "dom" "NodeId")),
          .required "root" "root" (.one (.ref "dom" "Node")) ] } ]

def domain : DevTools.Domain where
  name := "DOM"
  scope := "dom"
  types := types
  commands := commands
  events := events

end DevTools.Domain.DOM

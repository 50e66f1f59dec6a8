import DevTools.Schema

namespace DevTools.Domain.DOMSnapshot

def types : List Declaration :=
  [ .record "DOMNode"
      [ .required "node_type" "nodeType" (.one .integer),
        .required "node_name" "nodeName" (.one .text),
        .required "node_value" "nodeValue" (.one .text),
        .required "backend_node_id" "backendNodeId" (.one (.ref "dom" "BackendNodeId")),
        .optional "text_value" "textValue" (.one .text),
        .optional "input_value" "inputValue" (.one .text),
        .optional "input_checked" "inputChecked" (.one .boolean),
        .optional "option_selected" "optionSelected" (.one .boolean),
        .optional "child_node_indexes" "childNodeIndexes" (.many .integer),
        .optional "attributes" "attributes" (.many (.ref "dom_snapshot" "NameValue")),
        .optional "pseudo_element_indexes" "pseudoElementIndexes" (.many .integer),
        .optional "layout_node_index" "layoutNodeIndex" (.one .integer),
        .optional "document_url" "documentURL" (.one .text),
        .optional "base_url" "baseURL" (.one .text),
        .optional "content_language" "contentLanguage" (.one .text),
        .optional "document_encoding" "documentEncoding" (.one .text),
        .optional "public_id" "publicId" (.one .text),
        .optional "system_id" "systemId" (.one .text),
        .optional "frame_id" "frameId" (.one (.ref "page" "FrameId")),
        .optional "content_document_index" "contentDocumentIndex" (.one .integer),
        .optional "pseudo_type" "pseudoType" (.one (.ref "dom" "PseudoType")),
        .optional "shadow_root_type" "shadowRootType" (.one (.ref "dom" "ShadowRootType")),
        .optional "is_clickable" "isClickable" (.one .boolean),
        .optional "event_listeners" "eventListeners"
          (.many (.ref "dom_debugger" "EventListener")),
        .optional "current_source_url" "currentSourceURL" (.one .text),
        .optional "origin_url" "originURL" (.one .text),
        .optional "scroll_offset_x" "scrollOffsetX" (.one .number),
        .optional "scroll_offset_y" "scrollOffsetY" (.one .number) ],
    .record "InlineTextBox"
      [ .required "bounding_box" "boundingBox" (.one (.ref "dom" "Rect")),
        .required "start_character_index" "startCharacterIndex" (.one .integer),
        .required "num_characters" "numCharacters" (.one .integer) ],
    .record "LayoutTreeNode"
      [ .required "dom_node_index" "domNodeIndex" (.one .integer),
        .required "bounding_box" "boundingBox" (.one (.ref "dom" "Rect")),
        .optional "layout_text" "layoutText" (.one .text),
        .optional "inline_text_nodes" "inlineTextNodes"
          (.many (.ref "dom_snapshot" "InlineTextBox")),
        .optional "style_index" "styleIndex" (.one .integer),
        .optional "paint_order" "paintOrder" (.one .integer),
        .optional "is_stacking_context" "isStackingContext" (.one .boolean) ],
    .record "ComputedStyle"
      [ .required "properties" "properties" (.many (.ref "dom_snapshot" "NameValue")) ],
    .record "NameValue"
      [ .required "name" "name" (.one .text),
        .required "value" "value" (.one .text) ],
    .wrapper "StringIndex" .integer,
    .wrapper "ArrayOfStrings" .list,
    .record "RareStringData"
      [ .required "index" "index" (.many .integer),
        .required "value" "value" (.many (.ref "dom_snapshot" "StringIndex")) ],
    .record "RareBooleanData"
      [ .required "index" "index" (.many .integer) ],
    .record "RareIntegerData"
      [ .required "index" "index" (.many .integer),
        .required "value" "value" (.many .integer) ],
    .wrapper "Rectangle" .list,
    .record "DocumentSnapshot"
      [ .required "document_url" "documentURL" (.one (.ref "dom_snapshot" "StringIndex")),
        .required "title" "title" (.one (.ref "dom_snapshot" "StringIndex")),
        .required "base_url" "baseURL" (.one (.ref "dom_snapshot" "StringIndex")),
        .required "content_language" "contentLanguage"
          (.one (.ref "dom_snapshot" "StringIndex")),
        .required "encoding_name" "encodingName" (.one (.ref "dom_snapshot" "StringIndex")),
        .required "public_id" "publicId" (.one (.ref "dom_snapshot" "StringIndex")),
        .required "system_id" "systemId" (.one (.ref "dom_snapshot" "StringIndex")),
        .required "frame_id" "frameId" (.one (.ref "dom_snapshot" "StringIndex")),
        .required "nodes" "nodes" (.one (.ref "dom_snapshot" "NodeTreeSnapshot")),
        .required "layout" "layout" (.one (.ref "dom_snapshot" "LayoutTreeSnapshot")),
        .required "text_boxes" "textBoxes" (.one (.ref "dom_snapshot" "TextBoxSnapshot")),
        .optional "scroll_offset_x" "scrollOffsetX" (.one .number),
        .optional "scroll_offset_y" "scrollOffsetY" (.one .number),
        .optional "content_width" "contentWidth" (.one .number),
        .optional "content_height" "contentHeight" (.one .number) ],
    .record "NodeTreeSnapshot"
      [ .optional "parent_index" "parentIndex" (.many .integer),
        .optional "node_type" "nodeType" (.many .integer),
        .optional "shadow_root_type" "shadowRootType"
          (.one (.ref "dom_snapshot" "RareStringData")),
        .optional "node_name" "nodeName" (.many (.ref "dom_snapshot" "StringIndex")),
        .optional "node_value" "nodeValue" (.many (.ref "dom_snapshot" "StringIndex")),
        .optional "backend_node_id" "backendNodeId" (.many (.ref "dom" "BackendNodeId")),
        .optional "attributes" "attributes" (.many (.ref "dom_snapshot" "ArrayOfStrings")),
        .optional "text_value" "textValue" (.one (.ref "dom_snapshot" "RareStringData")),
        .optional "input_value" "inputValue" (.one (.ref "dom_snapshot" "RareStringData")),
        .optional "input_checked" "inputChecked" (.one (.ref "dom_snapshot" "RareBooleanData")),
        .optional "option_selected" "optionSelected"
          (.one (.ref "dom_snapshot" "RareBooleanData")),
        .optional "content_document_index" "contentDocumentIndex"
          (.one (.ref "dom_snapshot" "RareIntegerData")),
        .optional "pseudo_type" "pseudoType" (.one (.ref "dom_snapshot" "RareStringData")),
        .optional "is_clickable" "isClickable" (.one (.ref "dom_snapshot" "RareBooleanData")),
        .optional "current_source_url" "currentSourceURL"
          (.one (.ref "dom_snapshot" "RareStringData")),
        .optional "origin_url" "originURL" (.one (.ref "dom_snapshot" "RareStringData")) ],
    .record "LayoutTreeSnapshot"
      [ .required "node_index" "nodeIndex" (.many .integer),
        .required "styles" "styles" (.many (.ref "dom_snapshot" "ArrayOfStrings")),
        .required "bounds" "bounds" (.many (.ref "dom_snapshot" "Rectangle")),
        .required "text" "text" (.many (.ref "dom_snapshot" "StringIndex")),
        .required "stacking_contexts" "stackingContexts"
          (.one (.ref "dom_snapshot" "RareBooleanData")),
        .optional "paint_orders" "paintOrders" (.many .integer),
        .optional "offset_rects" "offsetRects" (.many (.ref "dom_snapshot" "Rectangle")),
        .optional "scroll_rects" "scrollRects" (.many (.ref "dom_snapshot" "Rectangle")),
        .optional "client_rects" "clientRects" (.many (.ref "dom_snapshot" "Rectangle")),
        .optional "blended_background_colors" "blendedBackgroundColors"
          (.many (.ref "dom_snapshot" "StringIndex")),
        .optional "text_color_opacities" "textColorOpacities" (.many .number) ],
    .record "TextBoxSnapshot"
      [ .required "layout_index" "layoutIndex" (.many .integer),
        .required "bounds" "bounds" (.many (.ref "dom_snapshot" "Rectangle")),
        .required "start" "start" (.many .integer),
        .required "length" "length" (.many .integer) ] ]

def commands : List Command :=
  [ { name := "disable", method := "DOMSnapshot.disable",
      parameters := [],
      returns := [] },
    { name := "enable", method := "DOMSnapshot.enable",
      parameters := [],
      returns := [] },
    { name := "get_snapshot", method := "DOMSnapshot.getSnapshot", deprecated := true,
      parameters :=
        [ .required "computed_style_whitelist" "computedStyleWhitelist" (.many .text),
          .optional "include_event_listeners" "includeEventListeners" (.one .boolean),
          .optional "include_paint_order" "includePaintOrder" (.one .boolean),
          .optional "include_user_agent_shadow_tree" "includeUserAgentShadowTree"
            (.one .boolean) ],
      returns :=
        [ .required "domNodes" (.many (.ref "dom_snapshot" "DOMNode")),
          .required "layoutTreeNodes" (.many (.ref "dom_snapshot" "LayoutTreeNode")),
          .required "computedStyles" (.many (.ref "dom_snapshot" "ComputedStyle")) ] },
    { name := "capture_snapshot", method := "DOMSnapshot.captureSnapshot",
      parameters :=
        [ .required "computed_styles" "computedStyles" (.many .text),
          .optional "include_paint_order" "includePaintOrder" (.one .boolean),
          .optional "include_dom_rects" "includeDOMRects" (.one .boolean),
          .optional "include_blended_background_colors" "includeBlendedBackgroundColors"
            (.one .boolean),
          .optional "include_text_color_opacities" "includeTextColorOpacities" (.one .boolean) ],
      returns :=
        [ .required "documents" (.many (.ref "dom_snapshot" "DocumentSnapshot")),
          .required "strings" (.many .text) ] } ]

def events : List Event := []

def domain : DevTools.Domain where
  name := "DOMSnapshot"
  scope := "dom_snapshot"
  types := types
  commands := commands
  events := events

end DevTools.Domain.DOMSnapshot

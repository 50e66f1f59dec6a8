import DevTools.Schema

namespace DevTools.Domain.Overlay

def types : List Declaration :=
  [ .record "SourceOrderConfig"
      [ .required "parent_outline_color" "parentOutlineColor" (.one (.ref "dom" "RGBA")),
        .required "child_outline_color" "childOutlineColor" (.one (.ref "dom" "RGBA")) ],
    .record "GridHighlightConfig"
      [ .optional "show_grid_extension_lines" "showGridExtensionLines" (.one .boolean),
        .optional "show_positive_line_numbers" "showPositiveLineNumbers" (.one .boolean),
        .optional "show_negative_line_numbers" "showNegativeLineNumbers" (.one .boolean),
        .optional "show_area_names" "showAreaNames" (.one .boolean),
        .optional "show_line_names" "showLineNames" (.one .boolean),
        .optional "show_track_sizes" "showTrackSizes" (.one .boolean),
        .optional "grid_border_color" "gridBorderColor" (.one (.ref "dom" "RGBA")),
        .optional "cell_border_color" "cellBorderColor" (.one (.ref "dom" "RGBA")),
        .optional "row_line_color" "rowLineColor" (.one (.ref "dom" "RGBA")),
        .optional "column_line_color" "columnLineColor" (.one (.ref "dom" "RGBA")),
        .optional "grid_border_dash" "gridBorderDash" (.one .boolean),
        .optional "cell_border_dash" "cellBorderDash" (.one .boolean),
        .optional "row_line_dash" "rowLineDash" (.one .boolean),
        .optional "column_line_dash" "columnLineDash" (.one .boolean),
        .optional "row_gap_color" "rowGapColor" (.one (.ref "dom" "RGBA")),
        .optional "row_hatch_color" "rowHatchColor" (.one (.ref "dom" "RGBA")),
        .optional "column_gap_color" "columnGapColor" (.one (.ref "dom" "RGBA")),
        .optional "column_hatch_color" "columnHatchColor" (.one (.ref "dom" "RGBA")),
        .optional "area_border_color" "areaBorderColor" (.one (.ref "dom" "RGBA")),
        .optional "grid_background_color" "gridBackgroundColor" (.one (.ref "dom" "RGBA")) ],
    .record "FlexContainerHighlightConfig"
      [ .optional "container_border" "containerBorder" (.one (.ref "overlay" "LineStyle")),
        .optional "line_separator" "lineSeparator" (.one (.ref "overlay" "LineStyle")),
        .optional "item_separator" "itemSeparator" (.one (.ref "overlay" "LineStyle")),
        .optional "main_distributed_space" "mainDistributedSpace"
          (.one (.ref "overlay" "BoxStyle")),
        .optional "cross_distributed_space" "crossDistributedSpace"
          (.one (.ref "overlay" "BoxStyle")),
        .optional "row_gap_space" "rowGapSpace" (.one (.ref "overlay" "BoxStyle")),
        .optional "column_gap_space" "columnGapSpace" (.one (.ref "overlay" "BoxStyle")),
        .optional "cross_alignment" "crossAlignment" (.one (.ref "overlay" "LineStyle")) ],
    .record "FlexItemHighlightConfig"
      [ .optional "base_size_box" "baseSizeBox" (.one (.ref "overlay" "BoxStyle")),
        .optional "base_size_border" "baseSizeBorder" (.one (.ref "overlay" "LineStyle")),
        .optional "flexibility_arrow" "flexibilityArrow" (.one (.ref "overlay" "LineStyle")) ],
    .record "LineStyle"
      [ .optional "color" "color" (.one (.ref "dom" "RGBA")),
        .optional "pattern" "pattern" (.one .text) ],
    .record "BoxStyle"
      [ .optional "fill_color" "fillColor" (.one (.ref "dom" "RGBA")),
        .optional "hatch_color" "hatchColor" (.one (.ref "dom" "RGBA")) ],
    .enumeration "ContrastAlgorithm" [("AA", "aa"), ("AAA", "aaa"), ("APCA", "apca")],
    .record "HighlightConfig"
      [ .optional "show_info" "showInfo" (.one .boolean),
        .optional "show_styles" "showStyles" (.one .boolean),
        .optional "show_rulers" "showRulers" (.one .boolean),
        .optional "show_accessibility_info" "showAccessibilityInfo" (.one .boolean),
        .optional "show_extension_lines" "showExtensionLines" (.one .boolean),
        .optional "content_color" "contentColor" (.one (.ref "dom" "RGBA")),
        .optional "padding_color" "paddingColor" (.one (.ref "dom" "RGBA")),
        .optional "border_color" "borderColor" (.one (.ref "dom" "RGBA")),
        .optional "margin_color" "marginColor" (.one (.ref "dom" "RGBA")),
        .optional "event_target_color" "eventTargetColor" (.one (.ref "dom" "RGBA")),
        .optional "shape_color" "shapeColor" (.one (.ref "dom" "RGBA")),
        .optional "shape_margin_color" "shapeMarginColor" (.one (.ref "dom" "RGBA")),
        .optional "css_grid_color" "cssGridColor" (.one (.ref "dom" "RGBA")),
        .optional "color_format" "colorFormat" (.one (.ref "overlay" "ColorFormat")),
        .optional "grid_highlight_config" "gridHighlightConfig"
          (.one (.ref "overlay" "GridHighlightConfig")),
        .optional "flex_container_highlight_config" "flexContainerHighlightConfig"
          (.one (.ref "overlay" "FlexContainerHighlightConfig")),
        .optional "flex_item_highlight_config" "flexItemHighlightConfig"
          (.one (.ref "overlay" "FlexItemHighlightConfig")),
        .optional "contrast_algorithm" "contrastAlgorithm"
          (.one (.ref "overlay" "ContrastAlgorithm")),
        .optional "container_query_container_highlight_config"
          "containerQueryContainerHighlightConfig"
          (.one (.ref "overlay" "ContainerQueryContainerHighlightConfig")) ],
    .enumeration "ColorFormat" [("RGB", "rgb"), ("HSL", "hsl"), ("HEX_", "hex")],
    .record "GridNodeHighlightConfig"
      [ .required "grid_highlight_config" "gridHighlightConfig"
          (.one (.ref "overlay" "GridHighlightConfig")),
        .required "node_id" "nodeId" (.one (.ref "dom" "NodeId")) ],
    .record "FlexNodeHighlightConfig"
      [ .required "flex_container_highlight_config" "flexContainerHighlightConfig"
          (.one (.ref "overlay" "FlexContainerHighlightConfig")),
        .required "node_id" "nodeId" (.one (.ref "dom" "NodeId")) ],
    .record "ScrollSnapContainerHighlightConfig"
      [ .optional "snapport_border" "snapportBorder" (.one (.ref "overlay" "LineStyle")),
        .optional "snap_area_border" "snapAreaBorder" (.one (.ref "overlay" "LineStyle")),
        .optional "scroll_margin_color" "scrollMarginColor" (.one (.ref "dom" "RGBA")),
        .optional "scroll_padding_color" "scrollPaddingColor" (.one (.ref "dom" "RGBA")) ],
    .record "ScrollSnapHighlightConfig"
      [ .required "scroll_snap_container_highlight_config" "scrollSnapContainerHighlightConfig"
          (.one (.ref "overlay" "ScrollSnapContainerHighlightConfig")),
        .required "node_id" "nodeId" (.one (.ref "dom" "NodeId")) ],
    .record "HingeConfig"
      [ .required "rect" "rect" (.one (.ref "dom" "Rect")),
        .optional "content_color" "contentColor" (.one (.ref "dom" "RGBA")),
        .optional "outline_color" "outlineColor" (.one (.ref "dom" "RGBA")) ],
    .record "ContainerQueryHighlightConfig"
      [ .required "container_query_container_highlight_config"
          "containerQueryContainerHighlightConfig"
          (.one (.ref "overlay" "ContainerQueryContainerHighlightConfig")),
        .required "node_id" "nodeId" (.one (.ref "dom" "NodeId")) ],
    .record "ContainerQueryContainerHighlightConfig"
      [ .optional "container_border" "containerBorder" (.one (.ref "overlay" "LineStyle")),
        .optional "descendant_border" "descendantBorder" (.one (.ref "overlay" "LineStyle")) ],
    .record "IsolatedElementHighlightConfig"
      [ .required "isolation_mode_highlight_config" "isolationModeHighlightConfig"
          (.one (.ref "overlay" "IsolationModeHighlightConfig")),
        .required "node_id" "nodeId" (.one (.ref "dom" "NodeId")) ],
    .record "IsolationModeHighlightConfig"
      [ .optional "resizer_color" "resizerColor" (.one (.ref "dom" "RGBA")),
        .optional "resizer_handle_color" "resizerHandleColor" (.one (.ref "dom" "RGBA")),
        .optional "mask_color" "maskColor" (.one (.ref "dom" "RGBA")) ],
    .enumeration "InspectMode"
      [ ("SEARCH_FOR_NODE", "searchForNode"),
        ("SEARCH_FOR_UA_SHADOW_DOM", "searchForUAShadowDOM"),
        ("CAPTURE_AREA_SCREENSHOT", "captureAreaScreenshot"), ("SHOW_DISTANCES", "showDistances"),
        ("NONE", "none") ] ]

def commands : List Command :=
  [ { name := "disable", method := "Overlay.disable",
      parameters := [],
      returns := [] },
    { name := "enable", method := "Overlay.enable",
      parameters := [],
      returns := [] },
    { name := "get_highlight_object_for_test", method := "Overlay.getHighlightObjectForTest",
      parameters :=
        [ .required "node_id" "nodeId" (.one (.ref "dom" "NodeId")),
          .optional "include_distance" "includeDistance" (.one .boolean),
          .optional "include_style" "includeStyle" (.one .boolean),
          .optional "color_format" "colorFormat" (.one (.ref "overlay" "ColorFormat")),
          .optional "show_accessibility_info" "showAccessibilityInfo" (.one .boolean) ],
      returns :=
        [ .required "highlight" (.one .dict) ] },
    { name := "get_grid_highlight_objects_for_test",
      method := "Overlay.getGridHighlightObjectsForTest",
      parameters :=
        [ .required "node_ids" "nodeIds" (.many (.ref "dom" "NodeId")) ],
      returns :=
        [ .required "highlights" (.one .dict) ] },
    { name := "get_source_order_highlight_object_for_test",
      method := "Overlay.getSourceOrderHighlightObjectForTest",
      parameters :=
        [ .required "node_id" "nodeId" (.one (.ref "dom" "NodeId")) ],
      returns :=
        [ .required "highlight" (.one .dict) ] },
    { name := "hide_highlight", method := "Overlay.hideHighlight",
      parameters := [],
      returns := [] },
    { name := "highlight_frame", method := "Overlay.highlightFrame", deprecated := true,
      parameters :=
        [ .required "frame_id" "frameId" (.one (.ref "page" "FrameId")),
          .optional "content_color" "contentColor" (.one (.ref "dom" "RGBA")),
          .optional "content_outline_color" "contentOutlineColor" (.one (.ref "dom" "RGBA")) ],
      returns := [] },
    { name := "highlight_node", method := "Overlay.highlightNode",
      parameters :=
        [ .required "highlight_config" "highlightConfig"
            (.one (.ref "overlay" "HighlightConfig")),
          .optional "node_id" "nodeId" (.one (.ref "dom" "NodeId")),
          .optional "backend_node_id" "backendNodeId" (.one (.ref "dom" "BackendNodeId")),
          .optional "object_id" "objectId" (.one (.ref "runtime" "RemoteObjectId")),
          .optional "selector" "selector" (.one .text) ],
      returns := [] },
    { name := "highlight_quad", method := "Overlay.highlightQuad",
      parameters :=
        [ .required "quad" "quad" (.one (.ref "dom" "Quad")),
          .optional "color" "color" (.one (.ref "dom" "RGBA")),
          .optional "outline_color" "outlineColor" (.one (.ref "dom" "RGBA")) ],
      returns := [] },
    { name := "highlight_rect", method := "Overlay.highlightRect",
      parameters :=
        [ .required "x" "x" (.one .integer),
          .required "y" "y" (.one .integer),
          .required "width" "width" (.one .integer),
          .required "height" "height" (.one .integer),
          .optional "color" "color" (.one (.ref "dom" "RGBA")),
          .optional "outline_color" "outlineColor" (.one (.ref "dom" "RGBA")) ],
      returns := [] },
    { name := "highlight_source_order", method := "Overlay.highlightSourceOrder",
      parameters :=
        [ .required "source_order_config" "sourceOrderConfig"
            (.one (.ref "overlay" "SourceOrderConfig")),
          .optional "node_id" "nodeId" (.one (.ref "dom" "NodeId")),
          .optional "backend_node_id" "backendNodeId" (.one (.ref "dom" "BackendNodeId")),
          .optional "object_id" "objectId" (.one (.ref "runtime" "RemoteObjectId")) ],
      returns := [] },
    { name := "set_inspect_mode", method := "Overlay.setInspectMode",
      parameters :=
        [ .required "mode" "mode" (.one (.ref "overlay" "InspectMode")),
          .optional "highlight_config" "highlightConfig"
            (.one (.ref "overlay" "HighlightConfig")) ],
      returns := [] },
    { name := "set_show_ad_highlights", method := "Overlay.setShowAdHighlights",
      parameters :=
        [ .required "show" "show" (.one .boolean) ],
      returns := [] },
    { name := "set_paused_in_debugger_message", method := "Overlay.setPausedInDebuggerMessage",
      parameters :=
        [ .optional "message" "message" (.one .text) ],
      returns := [] },
    { name := "set_show_debug_borders", method := "Overlay.setShowDebugBorders",
      parameters :=
        [ .required "show" "show" (.one .boolean) ],
      returns := [] },
    { name := "set_show_fps_counter", method := "Overlay.setShowFPSCounter",
      parameters :=
        [ .required "show" "show" (.one .boolean) ],
      returns := [] },
    { name := "set_show_grid_overlays", method := "Overlay.setShowGridOverlays",
      parameters :=
        [ .required "grid_node_highlight_configs" "gridNodeHighlightConfigs"
            (.many (.ref "overlay" "GridNodeHighlightConfig")) ],
      returns := [] },
    { name := "set_show_flex_overlays", method := "Overlay.setShowFlexOverlays",
      parameters :=
        [ .required "flex_node_highlight_configs" "flexNodeHighlightConfigs"
            (.many (.ref "overlay" "FlexNodeHighlightConfig")) ],
      returns := [] },
    { name := "set_show_scroll_snap_overlays", method := "Overlay.setShowScrollSnapOverlays",
      parameters :=
        [ .required "scroll_snap_highlight_configs" "scrollSnapHighlightConfigs"
            (.many (.ref "overlay" "ScrollSnapHighlightConfig")) ],
      returns := [] },
    { name := "set_show_container_query_overlays",
      method := "Overlay.setShowContainerQueryOverlays",
      parameters :=
        [ .required "container_query_highlight_configs" "containerQueryHighlightConfigs"
            (.many (.ref "overlay" "ContainerQueryHighlightConfig")) ],
      returns := [] },
    { name := "set_show_paint_rects", method := "Overlay.setShowPaintRects",
      parameters :=
        [ .required "result" "result" (.one .boolean) ],
      returns := [] },
    { name := "set_show_layout_shift_regions", method := "Overlay.setShowLayoutShiftRegions",
      parameters :=
        [ .required "result" "result" (.one .boolean) ],
      returns := [] },
    { name := "set_show_scroll_bottleneck_rects",
      method := "Overlay.setShowScrollBottleneckRects",
      parameters :=
        [ .required "show" "show" (.one .boolean) ],
      returns := [] },
    { name := "set_show_hit_test_borders", method := "Overlay.setShowHitTestBorders",
      parameters :=
        [ .required "show" "show" (.one .boolean) ],
      returns := [] },
    { name := "set_show_web_vitals", method := "Overlay.setShowWebVitals",
      parameters :=
        [ .required "show" "show" (.one .boolean) ],
      returns := [] },
    { name := "set_show_viewport_size_on_resize",
      method := "Overlay.setShowViewportSizeOnResize",
      parameters :=
        [ .required "show" "show" (.one .boolean) ],
      returns := [] },
    { name := "set_show_hinge", method := "Overlay.setShowHinge",
      parameters :=
        [ .optional "hinge_config" "hingeConfig" (.one (.ref "overlay" "HingeConfig")) ],
      returns := [] },
    { name := "set_show_isolated_elements", method := "Overlay.setShowIsolatedElements",
      parameters :=
        [ .required "isolated_element_highlight_configs" "isolatedElementHighlightConfigs"
            (.many (.ref "overlay" "IsolatedElementHighlightConfig")) ],
      returns := [] } ]

def events : List Event :=
  [ { name := "InspectNodeRequested", method := "Overlay.inspectNodeRequested",
      fields :=
        [ .required "backend_node_id" "backendNodeId" (.one (.ref "dom" "BackendNodeId")) ] },
    { name := "NodeHighlightRequested", method := "Overlay.nodeHighlightRequested",
      fields :=
        [ .required "node_id" "nodeId" (.one (.ref "dom" "NodeId")) ] },
    { name := "ScreenshotRequested", method := "Overlay.screenshotRequested",
      fields :=
        [ .required "viewport" "viewport" (.one (.ref "page" "Viewport")) ] },
    { name := "InspectModeCanceled", method := "Overlay.inspectModeCanceled",
      fields := [] } ]

def domain : DevTools.Domain where
  name := "Overlay"
  scope := "overlay"
  types := types
  commands := commands
  events := events

end DevTools.Domain.Overlay

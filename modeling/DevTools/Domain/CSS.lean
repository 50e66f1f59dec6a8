import DevTools.Schema

namespace DevTools.Domain.CSS

def types : List Declaration :=
  [ .wrapper "StyleSheetId" .text,
    .enumeration "StyleSheetOrigin"
      [ ("INJECTED", "injected"), ("USER_AGENT", "user-agent"), ("INSPECTOR", "inspector"),
        ("REGULAR", "regular") ],
    .record "PseudoElementMatches"
      [ .required "pseudo_type" "pseudoType" (.one (.ref "dom" "PseudoType")),
        .required "matches" "matches" (.many (.ref "css" "RuleMatch")) ],
    .record "InheritedStyleEntry"
      [ .required "matched_css_rules" "matchedCSSRules" (.many (.ref "css" "RuleMatch")),
        .optional "inline_style" "inlineStyle" (.one (.ref "css" "CSSStyle")) ],
    .record "RuleMatch"
      [ .required "rule" "rule" (.one (.ref "css" "CSSRule")),
        .required "matching_selectors" "matchingSelectors" (.many .integer) ],
    .record "Value"
      [ .required "text" "text" (.one .text),
        .optional "range_" "range" (.one (.ref "css" "SourceRange")) ],
    .record "SelectorList"
      [ .required "selectors" "selectors" (.many (.ref "css" "Value")),
        .required "text" "text" (.one .text) ],
    .record "CSSStyleSheetHeader"
      [ .required "style_sheet_id" "styleSheetId" (.one (.ref "css" "StyleSheetId")),
        .required "frame_id" "frameId" (.one (.ref "page" "FrameId")),
        .required "source_url" "sourceURL" (.one .text),
        .required "origin" "origin" (.one (.ref "css" "StyleSheetOrigin")),
        .required "title" "title" (.one .text),
        .required "disabled" "disabled" (.one .boolean),
        .required "is_inline" "isInline" (.one .boolean),
        .required "is_mutable" "isMutable" (.one .boolean),
        .required "is_constructed" "isConstructed" (.one .boolean),
        .required "start_line" "startLine" (.one .number),
        .required "start_column" "startColumn" (.one .number),
        .required "length" "length" (.one .number),
        .required "end_line" "endLine" (.one .number),
        .required "end_column" "endColumn" (.one .number),
        .optional "source_map_url" "sourceMapURL" (.one .text),
        .optional "owner_node" "ownerNode" (.one (.ref "dom" "BackendNodeId")),
        .optional "has_source_url" "hasSourceURL" (.one .boolean) ],
    .record "CSSRule"
      [ .required "selector_list" "selectorList" (.one (.ref "css" "SelectorList")),
        .required "origin" "origin" (.one (.ref "css" "StyleSheetOrigin")),
        .required "style" "style" (.one (.ref "css" "CSSStyle")),
        .optional "style_sheet_id" "styleSheetId" (.one (.ref "css" "StyleSheetId")),
        .optional "media" "media" (.many (.ref "css" "CSSMedia")),
        .optional "container_queries" "containerQueries"
          (.many (.ref "css" "CSSContainerQuery")) ],
    .record "RuleUsage"
      [ .required "style_sheet_id" "styleSheetId" (.one (.ref "css" "StyleSheetId")),
        .required "start_offset" "startOffset" (.one .number),
        .required "end_offset" "endOffset" (.one .number),
        .required "used" "used" (.one .boolean) ],
    .record "SourceRange"
      [ .required "start_line" "startLine" (.one .integer),
        .required "start_column" "startColumn" (.one .integer),
        .required "end_line" "endLine" (.one .integer),
        .required "end_column" "endColumn" (.one .integer) ],
    .record "ShorthandEntry"
      [ .required "name" "name" (.one .text),
        .required "value" "value" (.one .text),
        .optional "important" "important" (.one .boolean) ],
    .record "CSSComputedStyleProperty"
      [ .required "name" "name" (.one .text),
        .required "value" "value" (.one .text) ],
    .record "CSSStyle"
      [ .required "css_properties" "cssProperties" (.many (.ref "css" "CSSProperty")),
        .required "shorthand_entries" "shorthandEntries" (.many (.ref "css" "ShorthandEntry")),
        .optional "style_sheet_id" "styleSheetId" (.one (.ref "css" "StyleSheetId")),
        .optional "css_text" "cssText" (.one .text),
        .optional "range_" "range" (.one (.ref "css" "SourceRange")) ],
    .record "CSSProperty"
      [ .required "name" "name" (.one .text),
        .required "value" "value" (.one .text),
        .optional "important" "important" (.one .boolean),
        .optional "implicit" "implicit" (.one .boolean),
        .optional "text" "text" (.one .text),
        .optional "parsed_ok" "parsedOk" (.one .boolean),
        .optional "disabled" "disabled" (.one .boolean),
        .optional "range_" "range" (.one (.ref "css" "SourceRange")) ],
    .record "CSSMedia"
      [ .required "text" "text" (.one .text),
        .required "source" "source" (.one .text),
        .optional "source_url" "sourceURL" (.one .text),
        .optional "range_" "range" (.one (.ref "css" "SourceRange")),
        .optional "style_sheet_id" "styleSheetId" (.one (.ref "css" "StyleSheetId")),
        .optional "media_list" "mediaList" (.many (.ref "css" "MediaQuery")) ],
    .record "MediaQuery"
      [ .required "expressions" "expressions" (.many (.ref "css" "MediaQueryExpression")),
        .required "active" "active" (.one .boolean) ],
    .record "MediaQueryExpression"
      [ .required "value" "value" (.one .number),
        .required "unit" "unit" (.one .text),
        .required "feature" "feature" (.one .text),
        .optional "value_range" "valueRange" (.one (.ref "css" "SourceRange")),
        .optional "computed_length" "computedLength" (.one .number) ],
    .record "CSSContainerQuery"
      [ .required "text" "text" (.one .text),
        .optional "range_" "range" (.one (.ref "css" "SourceRange")),
        .optional "style_sheet_id" "styleSheetId" (.one (.ref "css" "StyleSheetId")),
        .optional "name" "name" (.one .text) ],
    .record "PlatformFontUsage"
      [ .required "family_name" "familyName" (.one .text),
        .required "is_custom_font" "isCustomFont" (.one .boolean),
        .required "glyph_count" "glyphCount" (.one .number) ],
    .record "FontVariationAxis"
      [ .required "tag" "tag" (.one .text),
        .required "name" "name" (.one .text),
        .required "min_value" "minValue" (.one .number),
        .required "max_value" "maxValue" (.one .number),
        .required "default_value" "defaultValue" (.one .number) ],
    .record "FontFace"
      [ .required "font_family" "fontFamily" (.one .text),
        .required "font_style" "fontStyle" (.one .text),
        .required "font_variant" "fontVariant" (.one .text),
        .required "font_weight" "fontWeight" (.one .text),
        .required "font_stretch" "fontStretch" (.one .text),
        .required "unicode_range" "unicodeRange" (.one .text),
        .required "src" "src" (.one .text),
        .required "platform_font_family" "platformFontFamily" (.one .text),
        .optional "font_variation_axes" "fontVariationAxes"
          (.many (.ref "css" "FontVariationAxis")) ],
    .record "CSSKeyframesRule"
      [ .required "animation_name" "animationName" (.one (.ref "css" "Value")),
        .required "keyframes" "keyframes" (.many (.ref "css" "CSSKeyframeRule")) ],
    .record "CSSKeyframeRule"
      [ .required "origin" "origin" (.one (.ref "css" "StyleSheetOrigin")),
        .required "key_text" "keyText" (.one (.ref "css" "Value")),
        .required "style" "style" (.one (.ref "css" "CSSStyle")),
        .optional "style_sheet_id" "styleSheetId" (.one (.ref "css" "StyleSheetId")) ],
    .record "StyleDeclarationEdit"
      [ .required "style_sheet_id" "styleSheetId" (.one (.ref "css" "StyleSheetId")),
        .required "range_" "range" (.one (.ref "css" "SourceRange")),
        .required "text" "text" (.one .text) ] ]

def commands : List Command :=
  [ { name := "add_rule", method := "CSS.addRule",
      parameters :=
        [ .required "style_sheet_id" "styleSheetId" (.one (.ref "css" "StyleSheetId")),
          .required "rule_text" "ruleText" (.one .text),
          .required "location" "location" (.one (.ref "css" "SourceRange")) ],
      returns :=
        [ .required "rule" (.one (.ref "css" "CSSRule")) ] },
    { name := "collect_class_names", method := "CSS.collectClassNames",
      parameters :=
        [ .required "style_sheet_id" "styleSheetId" (.one (.ref "css" "StyleSheetId")) ],
      returns :=
        [ .required "classNames" (.many .text) ] },
    { name := "create_style_sheet", method := "CSS.createStyleSheet",
      parameters :=
        [ .required "frame_id" "frameId" (.one (.ref "page" "FrameId")) ],
      returns :=
        [ .required "styleSheetId" (.one (.ref "css" "StyleSheetId")) ] },
    { name := "disable", method := "CSS.disable",
      parameters := [],
      returns := [] },
    { name := "enable", method := "CSS.enable",
      parameters := [],
      returns := [] },
    { name := "force_pseudo_state", method := "CSS.forcePseudoState",
      parameters :=
        [ .required "node_id" "nodeId" (.one (.ref "dom" "NodeId")),
          .required "forced_pseudo_classes" "forcedPseudoClasses" (.many .text) ],
      returns := [] },
    { name := "get_background_colors", method := "CSS.getBackgroundColors",
      parameters :=
        [ .required "node_id" "nodeId" (.one (.ref "dom" "NodeId")) ],
      returns :=
        [ .optional "backgroundColors" (.many .text),
          .optional "computedFontSize" (.one .text),
          .optional "computedFontWeight" (.one .text) ] },
    { name := "get_computed_style_for_node", method := "CSS.getComputedStyleForNode",
      parameters :=
        [ .required "node_id" "nodeId" (.one (.ref "dom" "NodeId")) ],
      returns :=
        [ .required "computedStyle" (.many (.ref "css" "CSSComputedStyleProperty")) ] },
    { name := "get_inline_styles_for_node", method := "CSS.getInlineStylesForNode",
      parameters :=
        [ .required "node_id" "nodeId" (.one (.ref "dom" "NodeId")) ],
      returns :=
        [ .optional "inlineStyle" (.one (.ref "css" "CSSStyle")),
          .optional "attributesStyle" (.one (.ref "css" "CSSStyle")) ] },
    { name := "get_matched_styles_for_node", method := "CSS.getMatchedStylesForNode",
      parameters :=
        [ .required "node_id" "nodeId" (.one (.ref "dom" "NodeId")) ],
      returns :=
        [ .optional "inlineStyle" (.one (.ref "css" "CSSStyle")),
          .optional "attributesStyle" (.one (.ref "css" "CSSStyle")),
          .optional "matchedCSSRules" (.many (.ref "css" "RuleMatch")),
          .optional "pseudoElements" (.many (.ref "css" "PseudoElementMatches")),
          .optional "inherited" (.many (.ref "css" "InheritedStyleEntry")),
          .optional "cssKeyframesRules" (.many (.ref "css" "CSSKeyframesRule")) ] },
    { name := "get_media_queries", method := "CSS.getMediaQueries",
      parameters := [],
      returns :=
        [ .required "medias" (.many (.ref "css" "CSSMedia")) ] },
    { name := "get_platform_fonts_for_node", method := "CSS.getPlatformFontsForNode",
      parameters :=
        [ .required "node_id" "nodeId" (.one (.ref "dom" "NodeId")) ],
      returns :=
        [ .required "fonts" (.many (.ref "css" "PlatformFontUsage")) ] },
    { name := "get_style_sheet_text", method := "CSS.getStyleSheetText",
      parameters :=
        [ .required "style_sheet_id" "styleSheetId" (.one (.ref "css" "StyleSheetId")) ],
      returns :=
        [ .required "text" (.one .text) ] },
    { name := "track_computed_style_updates", method := "CSS.trackComputedStyleUpdates",
      parameters :=
        [ .required "properties_to_track" "propertiesToTrack"
            (.many (.ref "css" "CSSComputedStyleProperty")) ],
      returns := [] },
    { name := "take_computed_style_updates", method := "CSS.takeComputedStyleUpdates",
      parameters := [],
      returns :=
        [ .required "nodeIds" (.many (.ref "dom" "NodeId")) ] },
    { name := "set_effective_property_value_for_node",
      method := "CSS.setEffectivePropertyValueForNode",
      parameters :=
        [ .required "node_id" "nodeId" (.one (.ref "dom" "NodeId")),
          .required "property_name" "propertyName" (.one .text),
          .required "value" "value" (.one .text) ],
      returns := [] },
    { name := "set_keyframe_key", method := "CSS.setKeyframeKey",
      parameters :=
        [ .required "style_sheet_id" "styleSheetId" (.one (.ref "css" "StyleSheetId")),
          .required "range_" "range" (.one (.ref "css" "SourceRange")),
          .required "key_text" "keyText" (.one .text) ],
      returns :=
        [ .required "keyText" (.one (.ref "css" "Value")) ] },
    { name := "set_media_text", method := "CSS.setMediaText",
      parameters :=
        [ .required "style_sheet_id" "styleSheetId" (.one (.ref "css" "StyleSheetId")),
          .required "range_" "range" (.one (.ref "css" "SourceRange")),
          .required "text" "text" (.one .text) ],
      returns :=
        [ .required "media" (.one (.ref "css" "CSSMedia")) ] },
    { name := "set_container_query_text", method := "CSS.setContainerQueryText",
      parameters :=
        [ .required "style_sheet_id" "styleSheetId" (.one (.ref "css" "StyleSheetId")),
          .required "range_" "range" (.one (.ref "css" "SourceRange")),
          .required "text" "text" (.one .text) ],
      returns :=
        [ .required "containerQuery" (.one (.ref "css" "CSSContainerQuery")) ] },
    { name := "set_rule_selector", method := "CSS.setRuleSelector",
      parameters :=
        [ .required "style_sheet_id" "styleSheetId" (.one (.ref "css" "StyleSheetId")),
          .required "range_" "range" (.one (.ref "css" "SourceRange")),
          .required "selector" "selector" (.one .text) ],
      returns :=
        [ .required "selectorList" (.one (.ref "css" "SelectorList")) ] },
    { name := "set_style_sheet_text", method := "CSS.setStyleSheetText",
      parameters :=
        [ .required "style_sheet_id" "styleSheetId" (.one (.ref "css" "StyleSheetId")),
          .required "text" "text" (.one .text) ],
      returns :=
        [ .optional "sourceMapURL" (.one .text) ] },
    { name := "set_style_texts", method := "CSS.setStyleTexts",
      parameters :=
        [ .required "edits" "edits" (.many (.ref "css" "StyleDeclarationEdit")) ],
      returns :=
        [ .required "styles" (.many (.ref "css" "CSSStyle")) ] },
    { name := "start_rule_usage_tracking", method := "CSS.startRuleUsageTracking",
      parameters := [],
      returns := [] },
    { name := "stop_rule_usage_tracking", method := "CSS.stopRuleUsageTracking",
      parameters := [],
      returns :=
        [ .required "ruleUsage" (.many (.ref "css" "RuleUsage")) ] },
    { name := "take_coverage_delta", method := "CSS.takeCoverageDelta",
      parameters := [],
      returns :=
        [ .required "coverage" (.many (.ref "css" "RuleUsage")),
          .required "timestamp" (.one .number) ] },
    { name := "set_local_fonts_enabled", method := "CSS.setLocalFontsEnabled",
      parameters :=
        [ .required "enabled" "enabled" (.one .boolean) ],
      returns := [] } ]

def events : List Event :=
  [ { name := "FontsUpdated", method := "CSS.fontsUpdated",
      fields :=
        [ .optional "font" "font" (.one (.ref "css" "FontFace")) ] },
    { name := "MediaQueryResultChanged", method := "CSS.mediaQueryResultChanged",
      fields := [] },
    { name := "StyleSheetAdded", method := "CSS.styleSheetAdded",
      fields :=
        [ .required "header" "header" (.one (.ref "css" "CSSStyleSheetHeader")) ] },
    { name := "StyleSheetChanged", method := "CSS.styleSheetChanged",
      fields :=
        [ .required "style_sheet_id" "styleSheetId" (.one (.ref "css" "StyleSheetId")) ] },
    { name := "StyleSheetRemoved", method := "CSS.styleSheetRemoved",
      fields :=
        [ .required "style_sheet_id" "styleSheetId" (.one (.ref "css" "StyleSheetId")) ] } ]

def domain : DevTools.Domain where
  name := "CSS"
  scope := "css"
  types := types
  commands := commands
  events := events

end DevTools.Domain.CSS

import DevTools.Schema

namespace DevTools.Domain.LayerTree

def types : List Declaration :=
  [ .wrapper "LayerId" .text,
    .wrapper "SnapshotId" .text,
    .record "ScrollRect"
      [ .required "rect" "rect" (.one (.ref "dom" "Rect")),
        .required "type_" "type" (.one .text) ],
    .record "StickyPositionConstraint"
      [ .required "sticky_box_rect" "stickyBoxRect" (.one (.ref "dom" "Rect")),
        .required "containing_block_rect" "containingBlockRect" (.one (.ref "dom" "Rect")),
        .optional "nearest_layer_shifting_sticky_box" "nearestLayerShiftingStickyBox"
          (.one (.ref "layer_tree" "LayerId")),
        .optional "nearest_layer_shifting_containing_block" "nearestLayerShiftingContainingBlock"
          (.one (.ref "layer_tree" "LayerId")) ],
    .record "PictureTile"
      [ .required "x" "x" (.one .number),
        .required "y" "y" (.one .number),
        .required "picture" "picture" (.one .text) ],
    .record "Layer"
      [ .required "layer_id" "layerId" (.one (.ref "layer_tree" "LayerId")),
        .required "offset_x" "offsetX" (.one .number),
        .required "offset_y" "offsetY" (.one .number),
        .required "width" "width" (.one .number),
        .required "height" "height" (.one .number),
        .required "paint_count" "paintCount" (.one .integer),
        .required "draws_content" "drawsContent" (.one .boolean),
        .optional "parent_layer_id" "parentLayerId" (.one (.ref "layer_tree" "LayerId")),
        .optional "backend_node_id" "backendNodeId" (.one (.ref "dom" "BackendNodeId")),
        .optional "transform" "transform" (.many .number),
        .optional "anchor_x" "anchorX" (.one .number),
        .optional "anchor_y" "anchorY" (.one .number),
        .optional "anchor_z" "anchorZ" (.one .number),
        .optional "invisible" "invisible" (.one .boolean),
        .optional "scroll_rects" "scrollRects" (.many (.ref "layer_tree" "ScrollRect")),
        .optional "sticky_position_constraint" "stickyPositionConstraint"
          (.one (.ref "layer_tree" "StickyPositionConstraint")) ],
    .wrapper "PaintProfile" .list ]

def commands : List Command :=
  [ { name := "compositing_reasons", method := "LayerTree.compositingReasons",
      parameters :=
        [ .required "layer_id" "layerId" (.one (.ref "layer_tree" "LayerId")) ],
      returns :=
        [ .required "compositingReasons" (.many .text),
          .required "compositingReasonIds" (.many .text) ] },
    { name := "disable", method := "LayerTree.disable",
      parameters := [],
      returns := [] },
    { name := "enable", method := "LayerTree.enable",
      parameters := [],
      returns := [] },
    { name := "load_snapshot", method := "LayerTree.loadSnapshot",
      parameters :=
        [ .required "tiles" "tiles" (.many (.ref "layer_tree" "PictureTile")) ],
      returns :=
        [ .required "snapshotId" (.one (.ref "layer_tree" "SnapshotId")) ] },
    { name := "make_snapshot", method := "LayerTree.makeSnapshot",
      parameters :=
        [ .required "layer_id" "layerId" (.one (.ref "layer_tree" "LayerId")) ],
      returns :=
        [ .required "snapshotId" (.one (.ref "layer_tree" "SnapshotId")) ] },
    { name := "profile_snapshot", method := "LayerTree.profileSnapshot",
      parameters :=
        [ .required "snapshot_id" "snapshotId" (.one (.ref "layer_tree" "SnapshotId")),
          .optional "min_repeat_count" "minRepeatCount" (.one .integer),
          .optional "min_duration" "minDuration" (.one .number),
          .optional "clip_rect" "clipRect" (.one (.ref "dom" "Rect")) ],
      returns :=
        [ .required "timings" (.many (.ref "layer_tree" "PaintProfile")) ] },
    { name := "release_snapshot", method := "LayerTree.releaseSnapshot",
      parameters :=
        [ .required "snapshot_id" "snapshotId" (.one (.ref "layer_tree" "SnapshotId")) ],
      returns := [] },
    { name := "replay_snapshot", method := "LayerTree.replaySnapshot",
      parameters :=
        [ .required "snapshot_id" "snapshotId" (.one (.ref "layer_tree" "SnapshotId")),
          .optional "from_step" "fromStep" (.one .integer),
          .optional "to_step" "toStep" (.one .integer),
          .optional "scale" "scale" (.one .number) ],
      returns :=
        [ .required "dataURL" (.one .text) ] },
    { name := "snapshot_command_log", method := "LayerTree.snapshotCommandLog",
      parameters :=
        [ .required "snapshot_id" "snapshotId" (.one (.ref "layer_tree" "SnapshotId")) ],
      returns :=
        [ .required "commandLog" (.many .dict) ] } ]

def events : List Event :=
  [ { name := "LayerPainted", method := "LayerTree.layerPainted",
      fields :=
        [ .required "layer_id" "layerId" (.one (.ref "layer_tree" "LayerId")),
          .required "clip" "clip" (.one (.ref "dom" "Rect")) ] },
    { name := "LayerTreeDidChange", method := "LayerTree.layerTreeDidChange",
      fields :=
        [ .optional "layers" "layers" (.many (.ref "layer_tree" "Layer")) ] } ]

def domain : DevTools.Domain where
  name := "LayerTree"
  scope := "layer_tree"
  types := types
  commands := commands
  events := events

end DevTools.Domain.LayerTree

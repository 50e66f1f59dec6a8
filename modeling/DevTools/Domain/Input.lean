import DevTools.Schema

namespace DevTools.Domain.Input

def types : List Declaration :=
  [ .record "TouchPoint"
      [ .required "x" "x" (.one .number),
        .required "y" "y" (.one .number),
        .optional "radius_x" "radiusX" (.one .number),
        .optional "radius_y" "radiusY" (.one .number),
        .optional "rotation_angle" "rotationAngle" (.one .number),
        .optional "force" "force" (.one .number),
        .optional "tangential_pressure" "tangentialPressure" (.one .number),
        .optional "tilt_x" "tiltX" (.one .integer),
        .optional "tilt_y" "tiltY" (.one .integer),
        .optional "twist" "twist" (.one .integer),
        .optional "id_" "id" (.one .number) ],
    .enumeration "GestureSourceType"
      [ ("DEFAULT", "default"), ("TOUCH", "touch"), ("MOUSE", "mouse") ],
    .enumeration "MouseButton"
      [ ("NONE", "none"), ("LEFT", "left"), ("MIDDLE", "middle"), ("RIGHT", "right"),
        ("BACK", "back"), ("FORWARD", "forward") ],
    .wrapper "TimeSinceEpoch" .number,
    .record "DragDataItem"
      [ .required "mime_type" "mimeType" (.one .text),
        .required "data" "data" (.one .text),
        .optional "title" "title" (.one .text),
        .optional "base_url" "baseURL" (.one .text) ],
    .record "DragData"
      [ .required "items" "items" (.many (.ref "input_" "DragDataItem")),
        .required "drag_operations_mask" "dragOperationsMask" (.one .integer),
        .optional "files" "files" (.many .text) ] ]

def commands : List Command :=
  [ { name := "dispatch_drag_event", method := "Input.dispatchDragEvent",
      parameters :=
        [ .required "type_" "type" (.one .text),
          .required "x" "x" (.one .number),
          .required "y" "y" (.one .number),
          .required "data" "data" (.one (.ref "input_" "DragData")),
          .optional "modifiers" "modifiers" (.one .integer) ],
      returns := [] },
    { name := "dispatch_key_event", method := "Input.dispatchKeyEvent",
      parameters :=
        [ .required "type_" "type" (.one .text),
          .optional "modifiers" "modifiers" (.one .integer),
          .optional "timestamp" "timestamp" (.one (.ref "input_" "TimeSinceEpoch")),
          .optional "text" "text" (.one .text),
          .optional "unmodified_text" "unmodifiedText" (.one .text),
          .optional "key_identifier" "keyIdentifier" (.one .text),
          .optional "code" "code" (.one .text),
          .optional "key" "key" (.one .text),
          .optional "windows_virtual_key_code" "windowsVirtualKeyCode" (.one .integer),
          .optional "native_virtual_key_code" "nativeVirtualKeyCode" (.one .integer),
          .optional "auto_repeat" "autoRepeat" (.one .boolean),
          .optional "is_keypad" "isKeypad" (.one .boolean),
          .optional "is_system_key" "isSystemKey" (.one .boolean),
          .optional "location" "location" (.one .integer),
          .optional "commands" "commands" (.many .text) ],
      returns := [] },
    { name := "insert_text", method := "Input.insertText",
      parameters :=
        [ .required "text" "text" (.one .text) ],
      returns := [] },
    { name := "ime_set_composition", method := "Input.imeSetComposition",
      parameters :=
        [ .required "text" "text" (.one .text),
          .required "selection_start" "selectionStart" (.one .integer),
          .required "selection_end" "selectionEnd" (.one .integer),
          .optional "replacement_start" "replacementStart" (.one .integer),
          .optional "replacement_end" "replacementEnd" (.one .integer) ],
      returns := [] },
    { name := "dispatch_mouse_event", method := "Input.dispatchMouseEvent",
      parameters :=
        [ .required "type_" "type" (.one .text),
          .required "x" "x" (.one .number),
          .required "y" "y" (.one .number),
          .optional "modifiers" "modifiers" (.one .integer),
          .optional "timestamp" "timestamp" (.one (.ref "input_" "TimeSinceEpoch")),
          .optional "button" "button" (.one (.ref "input_" "MouseButton")),
          .optional "buttons" "buttons" (.one .integer),
          .optional "click_count" "clickCount" (.one .integer),
          .optional "force" "force" (.one .number),
          .optional "tangential_pressure" "tangentialPressure" (.one .number),
          .optional "tilt_x" "tiltX" (.one .integer),
          .optional "tilt_y" "tiltY" (.one .integer),
          .optional "twist" "twist" (.one .integer),
          .optional "delta_x" "deltaX" (.one .number),
          .optional "delta_y" "deltaY" (.one .number),
          .optional "pointer_type" "pointerType" (.one .text) ],
      returns := [] },
    { name := "dispatch_touch_event", method := "Input.dispatchTouchEvent",
      parameters :=
        [ .required "type_" "type" (.one .text),
          .required "touch_points" "touchPoints" (.many (.ref "input_" "TouchPoint")),
          .optional "modifiers" "modifiers" (.one .integer),
          .optional "timestamp" "timestamp" (.one (.ref "input_" "TimeSinceEpoch")) ],
      returns := [] },
    { name := "emulate_touch_from_mouse_event", method := "Input.emulateTouchFromMouseEvent",
      parameters :=
        [ .required "type_" "type" (.one .text),
          .required "x" "x" (.one .integer),
          .required "y" "y" (.one .integer),
          .required "button" "button" (.one (.ref "input_" "MouseButton")),
          .optional "timestamp" "timestamp" (.one (.ref "input_" "TimeSinceEpoch")),
          .optional "delta_x" "deltaX" (.one .number),
          .optional "delta_y" "deltaY" (.one .number),
          .optional "modifiers" "modifiers" (.one .integer),
          .optional "click_count" "clickCount" (.one .integer) ],
      returns := [] },
    { name := "set_ignore_input_events", method := "Input.setIgnoreInputEvents",
      parameters :=
        [ .required "ignore" "ignore" (.one .boolean) ],
      returns := [] },
    { name := "set_intercept_drags", method := "Input.setInterceptDrags",
      parameters :=
        [ .required "enabled" "enabled" (.one .boolean) ],
      returns := [] },
    { name := "synthesize_pinch_gesture", method := "Input.synthesizePinchGesture",
      parameters :=
        [ .required "x" "x" (.one .number),
          .required "y" "y" (.one .number),
          .required "scale_factor" "scaleFactor" (.one .number),
          .optional "relative_speed" "relativeSpeed" (.one .integer),
          .optional "gesture_source_type" "gestureSourceType"
            (.one (.ref "input_" "GestureSourceType")) ],
      returns := [] },
    { name := "synthesize_scroll_gesture", method := "Input.synthesizeScrollGesture",
      parameters :=
        [ .required "x" "x" (.one .number),
          .required "y" "y" (.one .number),
          .optional "x_distance" "xDistance" (.one .number),
          .optional "y_distance" "yDistance" (.one .number),
          .optional "x_overscroll" "xOverscroll" (.one .number),
          .optional "y_overscroll" "yOverscroll" (.one .number),
          .optional "prevent_fling" "preventFling" (.one .boolean),
          .optional "speed" "speed" (.one .integer),
          .optional "gesture_source_type" "gestureSourceType"
            (.one (.ref "input_" "GestureSourceType")),
          .optional "repeat_count" "repeatCount" (.one .integer),
          .optional "repeat_delay_ms" "repeatDelayMs" (.one .integer),
          .optional "interaction_marker_name" "interactionMarkerName" (.one .text) ],
      returns := [] },
    { name := "synthesize_tap_gesture", method := "Input.synthesizeTapGesture",
      parameters :=
        [ .required "x" "x" (.one .number),
          .required "y" "y" (.one .number),
          .optional "duration" "duration" (.one .integer),
          .optional "tap_count" "tapCount" (.one .integer),
          .optional "gesture_source_type" "gestureSourceType"
            (.one (.ref "input_" "GestureSourceType")) ],
      returns := [] } ]

def events : List Event :=
  [ { name := "DragIntercepted", method := "Input.dragIntercepted",
      fields :=
        [ .required "data" "data" (.one (.ref "input_" "DragData")) ] } ]

def domain : DevTools.Domain where
  name := "Input"
  scope := "input_"
  types := types
  commands := commands
  events := events

end DevTools.Domain.Input

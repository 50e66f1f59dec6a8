import DevTools.Schema

namespace DevTools.Domain.DeviceOrientation

def types : List Declaration := []

def commands : List Command :=
  [ { name := "clear_device_orientation_override",
      method := "DeviceOrientation.clearDeviceOrientationOverride",
      parameters := [],
      returns := [] },
    { name := "set_device_orientation_override",
      method := "DeviceOrientation.setDeviceOrientationOverride",
      parameters :=
        [ .required "alpha" "alpha" (.one .number),
          .required "beta" "beta" (.one .number),
          .required "gamma" "gamma" (.one .number) ],
      returns := [] } ]

def events : List Event := []

def domain : DevTools.Domain where
  name := "DeviceOrientation"
  scope := "device_orientation"
  types := types
  commands := commands
  events := events

end DevTools.Domain.DeviceOrientation

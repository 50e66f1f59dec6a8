import DevTools.Schema

namespace DevTools.Domain.SystemInfo

def types : List Declaration :=
  [ .record "GPUDevice"
      [ .required "vendor_id" "vendorId" (.one .number),
        .required "device_id" "deviceId" (.one .number),
        .required "vendor_string" "vendorString" (.one .text),
        .required "device_string" "deviceString" (.one .text),
        .required "driver_vendor" "driverVendor" (.one .text),
        .required "driver_version" "driverVersion" (.one .text),
        .optional "sub_sys_id" "subSysId" (.one .number),
        .optional "revision" "revision" (.one .number) ],
    .record "Size"
      [ .required "width" "width" (.one .integer),
        .required "height" "height" (.one .integer) ],
    .record "VideoDecodeAcceleratorCapability"
      [ .required "profile" "profile" (.one .text),
        .required "max_resolution" "maxResolution" (.one (.ref "system_info" "Size")),
        .required "min_resolution" "minResolution" (.one (.ref "system_info" "Size")) ],
    .record "VideoEncodeAcceleratorCapability"
      [ .required "profile" "profile" (.one .text),
        .required "max_resolution" "maxResolution" (.one (.ref "system_info" "Size")),
        .required "max_framerate_numerator" "maxFramerateNumerator" (.one .integer),
        .required "max_framerate_denominator" "maxFramerateDenominator" (.one .integer) ],
    .enumeration "SubsamplingFormat"
      [ ("YUV420", "yuv420"), ("YUV422", "yuv422"), ("YUV444", "yuv444") ],
    .enumeration "ImageType" [("JPEG", "jpeg"), ("WEBP", "webp"), ("UNKNOWN", "unknown")],
    .record "ImageDecodeAcceleratorCapability"
      [ .required "image_type" "imageType" (.one (.ref "system_info" "ImageType")),
        .required "max_dimensions" "maxDimensions" (.one (.ref "system_info" "Size")),
        .required "min_dimensions" "minDimensions" (.one (.ref "system_info" "Size")),
        .required "subsamplings" "subsamplings"
          (.many (.ref "system_info" "SubsamplingFormat")) ],
    .record "GPUInfo"
      [ .required "devices" "devices" (.many (.ref "system_info" "GPUDevice")),
        .required "driver_bug_workarounds" "driverBugWorkarounds" (.many .text),
        .required "video_decoding" "videoDecoding"
          (.many (.ref "system_info" "VideoDecodeAcceleratorCapability")),
        .required "video_encoding" "videoEncoding"
          (.many (.ref "system_info" "VideoEncodeAcceleratorCapability")),
        .required "image_decoding" "imageDecoding"
          (.many (.ref "system_info" "ImageDecodeAcceleratorCapability")),
        .optional "aux_attributes" "auxAttributes" (.one .dict),
        .optional "feature_status" "featureStatus" (.one .dict) ],
    .record "ProcessInfo"
      [ .required "type_" "type" (.one .text),
        .required "id_" "id" (.one .integer),
        .required "cpu_time" "cpuTime" (.one .number) ] ]

def commands : List Command :=
  [ { name := "get_info", method := "SystemInfo.getInfo",
      parameters := [],
      returns :=
        [ .required "gpu" (.one (.ref "system_info" "GPUInfo")),
          .required "modelName" (.one .text),
          .required "modelVersion" (.one .text),
          .required "commandLine" (.one .text) ] },
    { name := "get_process_info", method := "SystemInfo.getProcessInfo",
      parameters := [],
      returns :=
        [ .required "processInfo" (.many (.ref "system_info" "ProcessInfo")) ] } ]

def events : List Event := []

def domain : DevTools.Domain where
  name := "SystemInfo"
  scope := "system_info"
  types := types
  commands := commands
  events := events

end DevTools.Domain.SystemInfo

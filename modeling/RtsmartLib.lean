import RtsmartLib.Lib.Machine
import RtsmartLib.Hal.Spi
import RtsmartLib.Hal.SpiConfig
import RtsmartLib.Lib.Memory
import RtsmartLib.Lib.Replica
import RtsmartLib.Lvgl.Display
import RtsmartLib.Lvgl.DisplaySync
import RtsmartLib.Lib.Rvv
import RtsmartLib.Lvgl.ImageFormat
import RtsmartLib.Lvgl.ImageRvv
import RtsmartLib.Lvgl.ImageBits
import RtsmartLib.Lvgl.ImagePixel
import RtsmartLib.Lvgl.ImageConvert
import RtsmartLib.Lib.BlockMode
import RtsmartLib.Pufs.Device
import RtsmartLib.Pufs.Cipher
import RtsmartLib.Mbedtls.AesSw
import RtsmartLib.Mbedtls.AesAlt
import RtsmartLib.Mbedtls.AesCounter
import RtsmartLib.Lib.Stream
import RtsmartLib.Pufs.Sp38aDevice
import RtsmartLib.Mbedtls.AesDevice
import RtsmartLib.Mbedtls.AesCtr
import RtsmartLib.Mbedtls.AesCbc
import RtsmartLib.Mbedtls.AesFallback
import RtsmartLib.Pufs.Feed
import RtsmartLib.Pufs.Hash
import RtsmartLib.Pufs.KeyMaterial
import RtsmartLib.Mbedtls.GcmAlt
import RtsmartLib.Mbedtls.GcmOneShot
import RtsmartLib.Mbedtls.GcmIv
import RtsmartLib.Mbedtls.CcmAlt
import RtsmartLib.Mbedtls.CcmStar
import RtsmartLib.Mbedtls.Sha256Alt
import RtsmartLib.Mbedtls.Sha256Clone
import RtsmartLib.Lib.LinkedList
import RtsmartLib.Nimble.Callout
import RtsmartLib.Nimble.CalloutList
import RtsmartLib.Nimble.CalloutExpiry
import RtsmartLib.Mbedtls.Sha256Errors
import RtsmartLib.Input.Driver
import RtsmartLib.Input.Pointer
import RtsmartLib.Input.PointerFrames
import RtsmartLib.Input.Reconnect
import RtsmartLib.Hal.FpioaTable
import RtsmartLib.Hal.Fpioa
import RtsmartLib.Hal.FpioaSelect
import RtsmartLib.Hal.FpioaRun
import RtsmartLib.Lib.Errno
import RtsmartLib.Wlan.Wire
import RtsmartLib.Wlan.Client
import RtsmartLib.Wlan.Queue
import RtsmartLib.Mbedtls.CmacAlt
import RtsmartLib.Mbedtls.CmacSw
import RtsmartLib.Pufs.Recorded
import RtsmartLib.Pufs.Cmac
import RtsmartLib.Mbedtls.FullLength
import RtsmartLib.Modem.Capture
import RtsmartLib.Modem.AtCmd
import RtsmartLib.Modem.AtResult
import RtsmartLib.Lib.Calls
import RtsmartLib.Lib.Interleave
import RtsmartLib.Pufs.Ecc
import RtsmartLib.Mbedtls.EcdhAlt
import RtsmartLib.Mbedtls.EcdhLib
import RtsmartLib.Mbedtls.Secp256r1
import RtsmartLib.Mbedtls.EcdhSecret
import RtsmartLib.Mbedtls.EcdhSlot
import RtsmartLib.Lib.Framing
import RtsmartLib.Hal.Hci
import RtsmartLib.Nimble.HalUart
import RtsmartLib.Lib.Chunks
import RtsmartLib.Pufs.Split
import RtsmartLib.Mbedtls.CcmOrder
import RtsmartLib.Lib.Layout
import RtsmartLib.Wlan.Channel
import RtsmartLib.Wlan.Layouts
import RtsmartLib.Wlan.Command
import RtsmartLib.Wlan.CommandContent
import RtsmartLib.Wlan.Decode
import RtsmartLib.Wlan.DecodeExact
import RtsmartLib.Wlan.DecodeMessage
import RtsmartLib.Hal.Gpio
import RtsmartLib.Hal.GpioIrq
import RtsmartLib.Hal.GpioLifetime
import RtsmartLib.Lib.Traced
import RtsmartLib.Hal.Pmu
import RtsmartLib.Hal.PmuSignal
import RtsmartLib.Hal.PmuNotify
import RtsmartLib.Hal.SpiCs
import RtsmartLib.Lib.Shadow
import RtsmartLib.Hal.GpioValue
import RtsmartLib.Hal.I2c
import RtsmartLib.Hal.Pm
import RtsmartLib.Nimble.Eventq
import RtsmartLib.Hal.FpioaFrame
import RtsmartLib.Lvgl.DisplayAbort
import RtsmartLib.Lib.Ledger
import RtsmartLib.Lvgl.Reconfigure
import RtsmartLib.Lib.RvvGroups
import RtsmartLib.Lvgl.RvvFill
import RtsmartLib.Lib.PackedBits
import RtsmartLib.Hal.Sbus
import RtsmartLib.Lib.Checked
import RtsmartLib.Hal.Pwm
import RtsmartLib.Hal.PwmReadBack
import RtsmartLib.Lib.PrefixCode
import RtsmartLib.Hal.GzipDecomp
import RtsmartLib.Hal.GzipStrip
import RtsmartLib.Hal.GzipBuffers
import RtsmartLib.Lib.Align
import RtsmartLib.Lib.Lines
import RtsmartLib.Lvgl.YuvCopy
import RtsmartLib.Lvgl.YuvSamples
import RtsmartLib.Lvgl.ImageRoundTrip
import RtsmartLib.Lib.CmacMode
import RtsmartLib.Mbedtls.CmacSubkeys
import RtsmartLib.Mbedtls.CmacMessage
import RtsmartLib.Lib.Extents
import RtsmartLib.Lvgl.Vglite
import RtsmartLib.Lvgl.VgliteRegistry
import RtsmartLib.Lvgl.VgliteAddress
import RtsmartLib.Lvgl.VgliteCache
import RtsmartLib.Lvgl.VgliteCacheRows
import RtsmartLib.Lib.Latest
import RtsmartLib.Lvgl.HidKeys
import RtsmartLib.Lvgl.HidKeypad
import RtsmartLib.Lvgl.HidShift
import RtsmartLib.Lvgl.HidPointer
import RtsmartLib.Lib.Transmit
import RtsmartLib.Hal.Ota
import RtsmartLib.Hal.OtaRun
import RtsmartLib.Modem.AtLine
import RtsmartLib.Modem.CaptureBuffer
import RtsmartLib.Lib.Runs
import RtsmartLib.Modem.Imei
import RtsmartLib.Hal.Ticks
import RtsmartLib.Hal.MmzZone
import RtsmartLib.Hal.Netmgmt
import RtsmartLib.Hal.Recvmmsg
import RtsmartLib.Hal.HardTimer
import RtsmartLib.Input.Poll
import RtsmartLib.Hal.SoftTimer
import RtsmartLib.Lib.MemoryLayout
import RtsmartLib.Hal.Fft
import RtsmartLib.Hal.FftBuffers
import RtsmartLib.Hal.FftRoundTrip
import RtsmartLib.Mbedtls.EcdsaAlt
import RtsmartLib.Mbedtls.EcdsaSign
import RtsmartLib.Lib.NetworkOrder
import RtsmartLib.Lib.Delimiter
import RtsmartLib.Lib.Reassembly
import RtsmartLib.Peer.Rtp
import RtsmartLib.Peer.RtpDecode
import RtsmartLib.Peer.RtpPackets
import RtsmartLib.Peer.AnnexB
import RtsmartLib.Peer.RtpRoundTrip
import RtsmartLib.Peer.RtpLoss
import RtsmartLib.Peer.ClientHello
import RtsmartLib.Peer.ClientHelloRuns
import RtsmartLib.Lib.Crc
import RtsmartLib.Lib.Tlv
import RtsmartLib.Lib.ExchangeSort
import RtsmartLib.Peer.Stun
import RtsmartLib.Peer.StunFingerprint
import RtsmartLib.Peer.StunAttributes
import RtsmartLib.Peer.StunIntegrity
import RtsmartLib.Peer.StunWriter
import RtsmartLib.Peer.Agent
import RtsmartLib.Peer.AgentChecks
import RtsmartLib.Peer.AgentRuns
import RtsmartLib.Peer.AgentExchange
import RtsmartLib.Peer.DtlsSrtp
import RtsmartLib.Peer.Connection
import RtsmartLib.Peer.ConnectionRuns
import RtsmartLib.Peer.ConnectionSessions
import RtsmartLib.Lib.Distinct
import RtsmartLib.Lib.Scan
import RtsmartLib.Peer.RemoteDescription
import RtsmartLib.Peer.RemoteCandidates
import RtsmartLib.Peer.CandidateText
import RtsmartLib.Lvgl.Converter
import RtsmartLib.Lvgl.ConverterRuns
import RtsmartLib.Lvgl.DecodeBuffers

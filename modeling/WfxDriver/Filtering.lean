import WfxDriver.StaWork

/-!
# Receive filtering

`wfx_update_filtering` sends the firmware the receive filter of an interface, its beacon
filter (table and control) and, through `wfx_set_multicast_filter`, its data filtering,
stopping at the first request the firmware refuses. `wfx_configure_filter` keeps the filter
flags the driver supports and derives from them, for every interface, whether to filter on
the BSSID and whether to turn the beacon filter off; it then asks the firmware to forward
probe requests (`wsm_fwd_probe_req`, whose body is not in this tree) and updates the
filtering. `wfx_prepare_multicast` fills the
multicast table of every interface from mac80211's list; but `wfx_set_multicast_filter`
returns at its "Temporary workaround for filters" with a zeroed `DataFiltering`, so the
table never reaches the firmware.
-/

namespace WfxDriver

end WfxDriver
